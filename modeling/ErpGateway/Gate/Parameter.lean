import ErpGateway.Gate.Rejection
import ErpGateway.Sql.Scalar
import ErpGateway.Json.Printer
import ErpGateway.Text.Ascii
import ErpGateway.Text.Blank

namespace ErpGateway.Gate

open Sql

def plainInt? (raw : String) : Option Int :=
  Decimal.int64? (Text.trim raw.toList)

def wholeWithin? (x : Float) : Option Int :=
  (Decimal.whole? x).filter Decimal.fitsInt64

def scalarOf (controlsRows : Bool) : Json → Scalar
  | .null => .null
  | .bool b => .bool b
  | .number n =>
    match n.int64? with
    | some i => .int i
    | none =>
      match wholeWithin? n.toFloat with
      | some i => .int i
      | none => .float n.toFloat
  | .text s =>
    match if controlsRows then plainInt? s else none with
    | some i => .int i
    | none => .text s
  | v => .text v.print

def withoutSigil : List Char → List Char
  | '@' :: rest => rest
  | cs => cs

def parameterName (key : String) : Except Rejection String :=
  let name := withoutSigil key.toList
  if Text.isIdentifier name then .ok (String.ofList name) else .error .parameterName

def bindInOrder (controls : List String) :
    (seen : List String) → List (String × Json) → Except Rejection Bindings
  | _, [] => .ok []
  | seen, (key, value) :: rest => do
    let name ← parameterName key
    let folded := Text.lowered name
    if seen.contains folded then throw .parameterName
    let bound ← bindInOrder controls (folded :: seen) rest
    return (name, scalarOf (controls.contains folded) value) :: bound

def bindParameters (parameters : Json.Members) (controls : List String) :
    Except Rejection Bindings :=
  bindInOrder controls [] parameters.sorted

end ErpGateway.Gate
