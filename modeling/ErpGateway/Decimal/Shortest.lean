import ErpGateway.Decimal.Binary64

/-!
The shortest decimal that reads back: of all decimals that round to a float the fewest digits, and
of those the one nearest to the float.
-/
namespace ErpGateway.Decimal

structure Scientific where
  digits : Nat
  exponent : Int
deriving DecidableEq, Repr

structure Neighbourhood where
  low : Nat
  value : Nat
  high : Nat
  exponent : Int
  closed : Bool
deriving DecidableEq, Repr

/-- The reals that round to `m · 2 ^ q`: half a unit on each side, a quarter below a power of two. -/
def neighbourhood (m : Nat) (q : Int) : Neighbourhood :=
  let below := if m == twoTo 52 && q > -1074 then 1 else 2
  ⟨4 * m - below, 4 * m, 4 * m + 2, q - 2, m % 2 == 0⟩

def powerFits (n d : Nat) (k : Int) : Bool :=
  if 0 ≤ k then tenTo k.toNat * d ≤ n else d ≤ n * tenTo (-k).toNat

/-- The greatest `k` with `10 ^ k ≤ n / d`, given that it is within one of `guess`. -/
def leadingPower (n d : Nat) (guess : Int) : Int :=
  if powerFits n d (guess + 1) then guess + 1
  else if powerFits n d guess then guess
  else guess - 1

def onGrid (low value high d : Nat) (closed : Bool) (lead : Int) (count : Nat) :
    Option Scientific :=
  let unit : Int := lead - count + 1
  let up := tenTo (-unit).toNat
  let down := d * tenTo unit.toNat
  let floor := value * up / down
  let inside (c : Nat) : Bool :=
    if closed then low * up ≤ c * down && c * down ≤ high * up
    else low * up < c * down && c * down < high * up
  let belowGap := value * up - floor * down
  let aboveGap := (floor + 1) * down - value * up
  let nearer := if belowGap < aboveGap || (belowGap == aboveGap && floor % 2 == 0)
    then floor else floor + 1
  let farther := if nearer == floor then floor + 1 else floor
  if inside nearer then some ⟨nearer, unit⟩
  else if inside farther then some ⟨farther, unit⟩
  else none

def Scientific.stripped : Nat → Scientific → Scientific
  | 0, s => s
  | fuel + 1, s =>
    if s.digits != 0 && s.digits % 10 == 0 then
      Scientific.stripped fuel ⟨s.digits / 10, s.exponent + 1⟩
    else s

def shortestOf (m : Nat) (q : Int) : Scientific :=
  let near := neighbourhood m q
  let up := twoTo near.exponent.toNat
  let d := twoTo (-near.exponent).toNat
  let low := near.low * up
  let value := near.value * up
  let high := near.high * up
  let guess := (((Nat.log2 m : Int) + q) * 30103).fdiv 100000
  let lead := leadingPower value d guess
  let found := (List.range 17).findSome? fun n =>
    onGrid low value high d near.closed lead (n + 1)
  (found.getD ⟨m, q⟩).stripped 20

def shortest (x : Float) : Scientific :=
  shortestOf (significand x) (exponent x)

end ErpGateway.Decimal
