import ErpGateway.Dialogue
import ErpGateway.Sql.Harvest

namespace ErpGateway.Sql

structure Route where
  needle : String
  param : Option (String × Scalar) := none
  answer : Except Failure (List Table)
  delay : Nat := 0

namespace Route

def fitsParam (route : Route) (s : Statement) : Bool :=
  match route.param with
  | none => true
  | some (name, value) => (s.param? name).any fun bound => bound.sameValue value

def fits (route : Route) (s : Statement) : Bool :=
  Text.occursIn route.needle.toList s.text.toList && route.fitsParam s

def answerTo (route : Route) (s : Statement) : Except Failure (List Table) :=
  match route.answer with
  | .error failure => .error failure
  | .ok tables => ((Harvest.empty s.maxRows).pushTables tables).map Harvest.tables

def reply (route : Route) (s : Statement) : Reply :=
  ⟨route.delay, route.answerTo s⟩

end Route

def scripted (routes : List Route) : Database := fun _ s =>
  match routes.find? fun route => route.fits s with
  | some route => route.reply s
  | none => ⟨0, .ok []⟩

end ErpGateway.Sql
