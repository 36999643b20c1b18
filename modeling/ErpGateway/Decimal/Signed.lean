import ErpGateway.Decimal.Reading

/-!
Floats together with their sign, which NaN has as well, and their total order.
-/
namespace ErpGateway.Decimal

structure Signed where
  value : Float
  negative : Bool
deriving DecidableEq

namespace Signed

def ofFloat (x : Float) : Signed :=
  ⟨x, isNegative x⟩

def ofChars? (cs : List Char) : Option Signed :=
  (float? cs).map fun x => ⟨x, cs.head? == some '-'⟩

/-- The place in the order of bits: negative ones first, `-0.0` before `0.0`, and the two NaN at the
ends. -/
def orderKey (s : Signed) : Int :=
  let magnitude := s.value.toBits.toNat % twoTo 63
  if s.negative then -(magnitude : Int) - 1 else magnitude

theorem orderKey_neg_iff (s : Signed) : s.orderKey < 0 ↔ s.negative = true := by
  cases h : s.negative <;> simp only [orderKey, h] <;> simp <;> omega

end Signed

end ErpGateway.Decimal
