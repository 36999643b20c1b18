import ErpGateway.Keyed
import ErpGateway.Decimal.Binary64
import ErpGateway.Decimal.Integer

namespace ErpGateway

inductive Json.Number where
  | int (n : Int)
  | float (x : Float)
deriving DecidableEq

inductive Json where
  | null
  | bool (b : Bool)
  | number (n : Json.Number)
  | text (s : String)
  | array (items : List Json)
  | object (members : List (String × Json))

abbrev Json.Members := Keyed String Json

namespace Json

def Number.toFloat : Number → Float
  | .int n => Decimal.floatOfInt n
  | .float x => x

def Number.int64? : Number → Option Int
  | .int n => if Decimal.fitsInt64 n then some n else none
  | .float _ => none

def int (n : Int) : Json := .number (.int n)

def float (x : Float) : Json :=
  if x.isFinite then .number (.float x) else .null

def ofOption (f : α → Json) : Option α → Json
  | none => .null
  | some a => f a

end Json

end ErpGateway
