import ErpGateway.Json.Basic

namespace ErpGateway.Sql

inductive Scalar where
  | null
  | bool (b : Bool)
  | int (n : Int)
  | float (x : Float)
  | text (s : String)
deriving DecidableEq

namespace Scalar

def int? : Scalar → Option Int
  | int n => some n
  | _ => none

def text? : Scalar → Option String
  | text s => some s
  | _ => none

def ofText? : Option String → Scalar
  | some s => text s
  | none => null

def sameValue : Scalar → Scalar → Bool
  | null, null => true
  | bool a, bool b => a == b
  | int a, int b => a == b
  | float a, float b => a == b
  | text a, text b => a == b
  | _, _ => false

end Scalar

abbrev Bindings := List (String × Scalar)

abbrev Row := Json.Members

abbrev Table := List Row

end ErpGateway.Sql
