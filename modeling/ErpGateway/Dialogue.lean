import ErpGateway.Log
import ErpGateway.Sql.Statement

/-!
Dialogues with a database: a computation that asks statements one after the other, notes events, and
ends with a value or a failure. Running one records what was asked and how long it took; the first
failing answer ends it, and so does the deadline.
-/
namespace ErpGateway

open Sql

inductive Dialogue (α : Type) where
  | done (a : α)
  | fail (failure : Failure)
  | ask (statement : Statement) (next : List Table → Dialogue α)
  | note (event : Event) (rest : Dialogue α)

namespace Dialogue

protected def bind (d : Dialogue α) (f : α → Dialogue β) : Dialogue β :=
  match d with
  | done a => f a
  | fail failure => .fail failure
  | ask statement next => .ask statement fun tables => (next tables).bind f
  | note event rest => .note event (rest.bind f)

instance : Monad Dialogue where
  pure := done
  bind := Dialogue.bind

def tables (statement : Statement) : Dialogue (List Table) :=
  .ask statement .done

def rows (statement : Statement) : Dialogue Table :=
  .ask statement fun tables => .done (tables.headD [])

def noted (event : Event) : Dialogue Unit :=
  .note event (.done ())

end Dialogue

structure Reply where
  delay : Nat
  answer : Except Failure (List Table)

/-- A database answers a statement, knowing those that were asked before. -/
abbrev Database := (earlier : List Statement) → Statement → Reply

structure Transcript (α : Type) where
  calls : List Statement
  events : List Event
  elapsed : Nat
  outcome : Except Failure α

def timeoutFailure (op : String) (limit : Nat) : Failure :=
  ⟨.timeout, some op, "Query timed out",
    some ("deadline of " ++ toString limit ++ " ms elapsed")⟩

namespace Dialogue

/-- Holds a dialogue that has asked `calls` and taken `elapsed` milliseconds. An answer that comes
after the deadline is not waited for. -/
def runFrom (db : Database) (op : String) (limit : Nat) (calls : List Statement)
    (events : List Event) (elapsed : Nat) : Dialogue α → Transcript α
  | .done a => ⟨calls, events, elapsed, .ok a⟩
  | .fail failure => ⟨calls, events, elapsed, .error failure⟩
  | .note event rest => runFrom db op limit calls (events ++ [event]) elapsed rest
  | .ask statement next =>
    let reply := db calls statement
    let elapsed' := elapsed + reply.delay
    if limit < elapsed' then
      ⟨calls ++ [statement], events, limit, .error (timeoutFailure op limit)⟩
    else
      match reply.answer with
      | .error failure => ⟨calls ++ [statement], events, elapsed', .error failure⟩
      | .ok tables => runFrom db op limit (calls ++ [statement]) events elapsed' (next tables)

def run (db : Database) (op : String) (limit : Nat) (d : Dialogue α) : Transcript α :=
  runFrom db op limit [] [] 0 d

end Dialogue

namespace Transcript

def framed (first : Event) (last : Except Failure α → Event) (t : Transcript α) : Transcript α :=
  { t with events := first :: t.events ++ [last t.outcome] }

end Transcript

end ErpGateway
