import ErpGateway.Config.Problem
import ErpGateway.Decimal.Integer
import ErpGateway.Text.Blank
import ErpGateway.Text.Search

namespace ErpGateway.Config

structure Listen where
  host : String
  port : Nat
deriving DecidableEq, Repr

namespace Listen

def withoutBrackets (cs : List Char) : List Char :=
  ((cs.dropWhile (· == '[')).reverse.dropWhile (· == ']')).reverse

def portMax : Nat := 65535

def port? (cs : List Char) : Option Nat :=
  (Decimal.unsigned? cs).filter fun n => 0 < n && n ≤ portMax

def ofChars (cs : List Char) : Except Problem Listen :=
  match Text.trim cs with
  | [] => .error (.invalid "apiListen is required")
  | address =>
    match Text.splitLast ':' address with
    | none => .error (.invalid "apiListen must be in host:port format")
    | some (before, after) =>
      match withoutBrackets before, port? after with
      | [], _ => .error (.invalid "apiListen host is required")
      | _, none => .error (.invalid "apiListen port must be between 1 and 65535")
      | host, some port => .ok ⟨String.ofList host, port⟩

def ofText (s : String) : Except Problem Listen :=
  ofChars s.toList

end Listen

end ErpGateway.Config
