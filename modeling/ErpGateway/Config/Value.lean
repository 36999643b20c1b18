import ErpGateway.Config.Decoding
import ErpGateway.Decimal.Layout
import ErpGateway.Decimal.Reading
import ErpGateway.Text.LowerCase

/-!
Values of layered settings. They are read leniently: text, numbers and flags convert into each other
where a setting needs it.
-/
namespace ErpGateway.Config

inductive Plain where
  | nil
  | bool (b : Bool)
  | int (n : Int)
  | float (x : Float)
  | text (s : String)
deriving DecidableEq

inductive Value where
  | plain (origin : Option Origin) (p : Plain)
  | array (origin : Option Origin) (items : List Value)
  | table (origin : Option Origin) (members : List (String × Value))

namespace Value

def origin : Value → Option Origin
  | plain o _ | array o _ | table o _ => o

def found : Value → Found
  | plain _ .nil => .nothing
  | plain _ (.bool b) => .bool b
  | plain _ (.int n) => .int n
  | plain _ (.float x) => .float x
  | plain _ (.text s) => .text s
  | array _ _ => .sequence
  | table _ _ => .map

def foldKey (key : String) : String :=
  Text.lowerCase key

def ofNumber (n : Json.Number) : Plain :=
  match n.int64? with
  | some i => .int i
  | none => .float n.toFloat

mutual

def ofJson (origin : Option Origin) : Json → Value
  | .null => plain origin .nil
  | .bool b => plain origin (.bool b)
  | .number n => plain origin (ofNumber n)
  | .text s => plain origin (.text s)
  | .array items => array origin (ofItems origin items)
  | .object members => table origin (ofMembers origin members)

def ofItems (origin : Option Origin) : List Json → List Value
  | [] => []
  | v :: rest => ofJson origin v :: ofItems origin rest

def ofMembers (origin : Option Origin) : List (String × Json) → List (String × Value)
  | [] => []
  | (key, v) :: rest => (key, ofJson origin v) :: ofMembers origin rest

end

def ofText (s : String) : Plain :=
  match Text.lowered s with
  | "true" => .bool true
  | "false" => .bool false
  | _ =>
    match Decimal.int64? s.toList with
    | some n => .int n
    | none =>
      match Decimal.float? s.toList with
      | some x => .float x
      | none => .text s

end Value

structure Located where
  key : String := ""
  value : Value

namespace Located

def member (l : Located) (name : String) (v : Value) : Located :=
  ⟨if l.key.isEmpty then name else l.key ++ "." ++ name, v⟩

def item (l : Located) (index : Nat) (v : Value) : Located :=
  ⟨l.key ++ "[" ++ toString index ++ "]", v⟩

def items (l : Located) (vs : List Value) : List Located :=
  vs.zipIdx.map fun e => l.item e.2 e.1

def mistyped (l : Located) (expected : String) : Except Cause α :=
  .error (.mistyped l.value.found expected l.key l.value.origin)

def text (l : Located) : Except Cause String :=
  match l.value with
  | .plain _ (.text s) => .ok s
  | .plain _ (.bool b) => .ok (if b then "true" else "false")
  | .plain _ (.int n) => .ok (toString n)
  | .plain _ (.float x) => .ok (Decimal.Layout.plain.write x)
  | _ => l.mistyped "a string"

def isYes (s : String) : Bool :=
  s == "true" || s == "on" || s == "yes"

def isNo (s : String) : Bool :=
  s == "false" || s == "off" || s == "no"

def bool (l : Located) : Except Cause Bool :=
  match l.value with
  | .plain _ (.bool b) => .ok b
  | .plain _ (.int n) => .ok (n != 0)
  | .plain _ (.float x) => .ok (x != 0.0)
  | .plain origin (.text s) =>
    let s := Text.lowerCase s
    if isYes s || s == "1" then .ok true
    else if isNo s || s == "0" then .ok false
    else .error (.mistyped (.text s) "a boolean" l.key origin)
  | _ => l.mistyped "a boolean"

/-- A text read as a whole number; digits without a sign may exceed 63 bits where no number is
negative. -/
def intOfText? (width : Width) (s : String) : Option Int :=
  if isYes (Text.lowerCase s) then some 1
  else if isNo (Text.lowerCase s) then some 0
  else if width.least < 0 then Decimal.int64? s.toList
  else (Decimal.word64? s.toList).map Int.ofNat

def whole (width : Width) (l : Located) : Except Cause Int :=
  match l.value with
  | .plain _ (.int n) =>
    if n < width.least then l.mistyped "an unsigned 64 bit or less integer" else .ok n
  | .plain _ (.bool b) => .ok (if b then 1 else 0)
  | .plain _ (.float x) =>
    let most : Int := if width.least < 0 then Decimal.int64Max else Decimal.word64Max
    .ok (Decimal.clampedInt width.least most (Decimal.rounded x))
  | .plain _ (.text s) =>
    match intOfText? width s with
    | some n => .ok n
    | none => l.mistyped "an integer"
  | _ => l.mistyped "an integer"

def int (width : Width) (l : Located) : Except Cause Int := do
  let n ← l.whole width
  if width.greatest < n then
    throw (.mistyped (.word n.toNat) "an unsigned 16 bit integer" l.key none)
  return n

def texts (l : Located) : Except Cause (List String) :=
  match l.value with
  | .array _ vs => (l.items vs).mapM text
  | v => .error (.misplaced v.found "a sequence")

def nullableText (l : Located) : Except Cause (Option String) :=
  match l.value with
  | .plain _ .nil => .ok none
  | _ => l.text.map some

def backendKind : String := "Backend"

def backendNamed (name : String) : Except Cause Erp.Backend :=
  match Erp.Backend.ofName? (Value.foldKey name) with
  | some b => .ok b
  | none => .error (.unknownVariant backendKind name)

def backend (l : Located) : Except Cause Erp.Backend :=
  match l.value with
  | .plain _ (.text s) => backendNamed s
  | .table _ [(key, _)] => backendNamed key
  | _ => .error (.notVariant backendKind)

def record (shape : Shape) (l : Located) : Except Cause (Members Located) :=
  match l.value with
  | .table _ ms =>
    .ok ⟨ms.filterMap fun e =>
      (Json.Record.ownName? shape.names e.1).map fun name => (name, l.member e.1 e.2), false⟩
  | .array _ vs => .ok ⟨(shape.names.map fun ns => ns.headD "").zip (l.items vs), true⟩
  | v => .error (.misplaced v.found ("struct " ++ shape.kind))

def missing (shape : Shape) (inOrder : Bool) (name : String) : Cause :=
  if inOrder then
    .tooShort (shape.names.findIdx fun ns => ns.head? == some name) ("struct " ++ shape.kind)
      shape.names.length
  else .memberMissing name

end Located

def valueReading : Reading Located Cause where
  record := Located.record
  missing := Located.missing
  text := Located.text
  nullableText := Located.nullableText
  bool := Located.bool
  int := Located.int
  texts := Located.texts
  backend := Located.backend

end ErpGateway.Config
