import ErpGateway.Text.Blank
import ErpGateway.Decimal.Binary64

namespace ErpGateway.Pricing

def discounted (price percent : Float) : Float :=
  price * (100.0 - percent) / 100.0

def toFourPlaces (x : Float) : Float :=
  Decimal.rounded (x * 10000.0) / 10000.0

/-- How percentages that apply together become one: the highest, the lowest, the mean, the sum up to
100, or one discount after the other. -/
inductive Aggregation where
  | highest | lowest | average | cappedSum | compounding
deriving DecidableEq, Repr

namespace Aggregation

def ofCode (code : Option String) : Aggregation :=
  match Text.trim (code.getD "").toList with
  | ['L'] | ['l'] => lowest
  | ['A'] | ['a'] => average
  | ['S'] | ['s'] => cappedSum
  | ['M'] | ['m'] => compounding
  | _ => highest

def code : Aggregation → String
  | highest => "H"
  | lowest => "L"
  | average => "A"
  | cappedSum => "S"
  | compounding => "M"

def label : Aggregation → String
  | highest => "highest"
  | lowest => "lowest"
  | average => "average"
  | cappedSum => "sum"
  | compounding => "mixed"

def prefersLowest : Aggregation → Bool
  | lowest => true
  | _ => false

theorem ofCode_code (mode : Aggregation) : ofCode (some mode.code) = mode := by
  cases mode <;> decide

end Aggregation

def greatestFinite : Float := 1.7976931348623157e308

def greater (a b : Float) : Float :=
  if a < b then b else a

def lesser (a b : Float) : Float :=
  if b < a then b else a

/-- The sum from left to right; `-0.0` adds nothing to any float. -/
def total (xs : List Float) : Float :=
  xs.foldl (· + ·) (-0.0)

def successive (percents : List Float) : Float :=
  if percents.any fun p => (100.0 : Float) ≤ p then 100.0
  else 100.0 * (1.0 - Float.exp (total (percents.map fun p => Float.log ((100.0 - p) / 100.0))))

def capped (sum : Float) : Float :=
  if sum < 100.0 then sum else 100.0

def Aggregation.combine (mode : Aggregation) (percents : List Float) : Option Float :=
  if percents.isEmpty then none
  else
    some <| match mode with
      | highest => percents.foldl greater (-greatestFinite)
      | lowest => percents.foldl lesser greatestFinite
      | average => total percents / Decimal.floatOfInt percents.length
      | cappedSum => capped (total percents)
      | compounding => successive percents

end ErpGateway.Pricing
