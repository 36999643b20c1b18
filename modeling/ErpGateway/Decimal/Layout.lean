import ErpGateway.Decimal.Integer
import ErpGateway.Decimal.Shortest

namespace ErpGateway.Decimal

structure Layout where
  positional : Int → Bool
  wholeTail : String

def Layout.json : Layout :=
  ⟨fun e => -5 ≤ e && e < 16, ".0"⟩

def Layout.plain : Layout :=
  ⟨fun _ => true, ""⟩

def zeros (n : Nat) : List Char :=
  List.replicate n '0'

def positionalText (tail : String) (cs : List Char) (exponent : Int) : List Char :=
  if 0 ≤ exponent then cs ++ zeros exponent.toNat ++ tail.toList
  else
    let places := (-exponent).toNat
    if places < cs.length then
      cs.take (cs.length - places) ++ '.' :: cs.drop (cs.length - places)
    else '0' :: '.' :: (zeros (places - cs.length) ++ cs)

def scientificText (cs : List Char) (lead : Int) : List Char :=
  let mantissa := match cs with
    | [] => []
    | [c] => [c]
    | c :: rest => c :: '.' :: rest
  mantissa ++ 'e' :: (if lead < 0 then '-' else '+') :: digits lead.natAbs

def Layout.finite (layout : Layout) (x : Float) : List Char :=
  let sign := if isNegative x then ['-'] else []
  if significand x = 0 then sign ++ '0' :: layout.wholeTail.toList
  else
    let s := shortest x
    let cs := digits s.digits
    let lead := s.exponent + cs.length - 1
    sign ++ if layout.positional lead then positionalText layout.wholeTail cs s.exponent
      else scientificText cs lead

def Layout.write (layout : Layout) (x : Float) : String :=
  if x.isNaN then "NaN"
  else if x.isInf then (if isNegative x then "-inf" else "inf")
  else String.ofList (layout.finite x)

end ErpGateway.Decimal
