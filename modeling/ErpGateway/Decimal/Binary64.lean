import ErpGateway.Decimal.Power

namespace ErpGateway.Decimal

def isNegative (x : Float) : Bool :=
  x.toBits ≥ 0x8000000000000000

def exponentBits (x : Float) : Nat :=
  x.toBits.toNat / twoTo 52 % 2048

def fractionBits (x : Float) : Nat :=
  x.toBits.toNat % twoTo 52

/-- A finite float is `±significand · 2 ^ exponent`. -/
def significand (x : Float) : Nat :=
  if exponentBits x = 0 then fractionBits x else twoTo 52 + fractionBits x

def exponent (x : Float) : Int :=
  if exponentBits x = 0 then -1074 else (exponentBits x : Int) - 1075

def truncated (x : Float) : Int :=
  let magnitude :=
    if exponent x < 0 then significand x / twoTo (-exponent x).toNat
    else significand x * twoTo (exponent x).toNat
  if isNegative x then -(magnitude : Int) else magnitude

def isWhole (x : Float) : Bool :=
  x.isFinite && (0 ≤ exponent x || significand x % twoTo (-exponent x).toNat == 0)

def whole? (x : Float) : Option Int :=
  if isWhole x then some (truncated x) else none

def floatOfInt (n : Int) : Float :=
  let magnitude := Float.ofScientific n.natAbs false 0
  if n < 0 then -magnitude else magnitude

def rounded (x : Float) : Float :=
  if !x.isFinite || isWhole x then x
  else
    let below := (truncated x).natAbs
    let part := x.abs - floatOfInt below
    let magnitude := if (0.5 : Float) ≤ part then floatOfInt (below + 1) else floatOfInt below
    if isNegative x then -magnitude else magnitude

def clampedInt (lo hi : Int) (x : Float) : Int :=
  if x.isNaN then 0
  else if x.isInf then (if isNegative x then lo else hi)
  else max lo (min hi (truncated x))

end ErpGateway.Decimal
