import ErpGateway.Json.Reading

/-!
Records: objects with known members. Members that are not known are passed over unread, a known
member may come once, and an array gives the members by position.
-/
namespace ErpGateway.Json

abbrev MemberNames := List (List String)

abbrev Record := Keyed String Document

open Text (Octets)

namespace Record

def ownName? (names : MemberNames) (key : String) : Option String :=
  (names.find? fun ns => ns.contains key).bind List.head?

def ofMembers? (names : MemberNames) : Record → List (Octets × Document) → Option Record
  | found, [] => some found
  | found, (spelling, d) :: rest =>
    match textOf? spelling with
    | none => none
    | some key =>
      match ownName? names key with
      | none => ofMembers? names found rest
      | some name =>
        match found.get? name with
        | some _ => none
        | none => ofMembers? names (found.put name d) rest

def ofItems? : MemberNames → List Document → Option Record
  | _, [] => some []
  | [], _ :: _ => none
  | ns :: names, d :: rest => (ofItems? names rest).map fun r => (ns.headD "", d) :: r

def ofDocument? (names : MemberNames) : Document → Option Record
  | .object members => ofMembers? names [] members
  | .array items => ofItems? names items
  | _ => none

def optional (r : Record) (name : String) (absent : α) (read : Document → Option α) : Option α :=
  match r.get? name with
  | none => some absent
  | some d => read d

def required (r : Record) (name : String) (read : Document → Option α) : Option α :=
  (r.get? name).bind read

end Record

def Document.text? : Document → Option String
  | .text spelling => textOf? spelling
  | _ => none

def Document.bool? : Document → Option Bool
  | .bool b => some b
  | _ => none

def Document.texts? : Document → Option (List String)
  | .array items => items.mapM Document.text?
  | _ => none

def Document.nullable? (read : Document → Option α) : Document → Option (Option α)
  | .null => some none
  | d => (read d).map some

def Document.intWithin? (lo hi : Int) : Document → Option Int
  | .number spelling =>
    match numberOf? spelling with
    | some (.int n) => if lo ≤ n && n ≤ hi then some n else none
    | _ => none
  | _ => none

end ErpGateway.Json
