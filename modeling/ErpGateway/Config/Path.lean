import ErpGateway.Config.Value

namespace ErpGateway.Config

inductive Step where
  | key (name : String)
  | position (index : Int)
deriving DecidableEq, Repr

structure Path where
  head : String
  rest : List Step := []
deriving DecidableEq, Repr

namespace Path

def isKeyChar (c : Char) : Bool :=
  c.isAlphanum || c == '_' || c == '-' || c == ' '

def isSpace (c : Char) : Bool :=
  c == ' ' || c == '\t'

def index? (cs : List Char) : Option Int :=
  if cs.head? = some '+' then none else Decimal.int64? cs

def position? (cs : List Char) : Option (Int × List Char) :=
  let inside := cs.dropWhile isSpace
  let number := inside.takeWhile fun c => c == '-' || c.isDigit
  match (inside.drop number.length).dropWhile isSpace with
  | ']' :: rest => (index? number).map fun n => (n, rest)
  | _ => none

def step? : List Char → Option (Step × List Char)
  | '.' :: rest =>
    let name := rest.takeWhile isKeyChar
    if name.isEmpty then none
    else some (.key (String.ofList name), rest.drop name.length)
  | '[' :: rest => (position? rest).map fun p => (.position p.1, p.2)
  | _ => none

def steps? : (fuel : Nat) → List Char → Option (List Step)
  | _, [] => some []
  | 0, _ => none
  | fuel + 1, cs => do
    let (step, rest) ← step? cs
    let steps ← steps? fuel rest
    return step :: steps

def ofText (s : String) : Path :=
  let cs := s.toList
  let head := cs.takeWhile isKeyChar
  if head.isEmpty then ⟨s, []⟩
  else
    match steps? cs.length (cs.drop head.length) with
    | some steps => ⟨String.ofList head, steps⟩
    | none => ⟨s, []⟩

end Path

namespace Value

abbrev Table := Keyed String Value

def asTable : Value → Option Origin × Table
  | table origin members => (origin, members)
  | _ => (none, [])

def asArray : Value → Option Origin × List Value
  | array origin items => (origin, items)
  | _ => (none, [])

def changed (there : Value) (f : Table → Table) : Value :=
  table there.asTable.1 (f there.asTable.2)

mutual

/-- Puts a value at a key of a table. A table is merged into what is there, member by member; anything
else takes the place. -/
def putMember (key : String) (value : Value) (into : Table) : Table :=
  match value with
  | table _ incoming =>
    let there := (into.get? key).getD (table none [])
    into.put key (merge incoming there)
  | v => into.put key v

def merge (incoming : List (String × Value)) (there : Value) : Value :=
  match incoming with
  | [] => there
  | (key, v) :: rest =>
    merge rest (table there.asTable.1 (putMember (foldKey key) v there.asTable.2))

end

def indexOf (position : Int) (count : Nat) : Nat :=
  if position < 0 then (position + count).toNat else position.toNat

def putItem (index : Nat) (item : Value) (there : List Value) : List Value :=
  if index < there.length then there.set index item
  else there ++ List.replicate (index - there.length) (plain none .nil) ++ [item]

def putAt (value : Value) : List Step → (there : Value) → Value
  | [], _ => value
  | [.key name], there => there.changed (putMember (foldKey name) value)
  | .key name :: rest, there =>
    let name := foldKey name
    there.changed fun members =>
      members.put name (putAt value rest ((members.get? name).getD (plain none .nil)))
  | .position n :: rest, there =>
    let items := there.asArray.2
    let index := indexOf n items.length
    let item := putAt value rest ((items[index]?).getD (plain none .nil))
    array there.asArray.1 (putItem index item items)

def putPath (path : Path) (value : Value) (settings : Value) : Value :=
  putAt value (.key path.head :: path.rest) settings

def overlay (further : List (String × Value)) (settings : Value) : Value :=
  further.foldl (fun acc e => putPath (Path.ofText e.1) e.2 acc) settings

end Value

end ErpGateway.Config
