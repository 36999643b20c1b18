import ErpGateway.Json.Basic

/-!
The value of a number as it is spelled in JSON. A number without fraction and exponent that fits
64 bits is an integer, except `-0`. Any other number is a float: as many digits as fit 64 bits are
taken, converted, and scaled by one power of ten. This is within a unit of the nearest float and
may differ from it.
-/
namespace ErpGateway.Json.Number

structure Scaled where
  word : Nat
  power : Int
deriving DecidableEq

def Scaled.takes (s : Scaled) (c : Char) : Bool :=
  s.word * 10 + Decimal.valueOf c ≤ Decimal.word64Max

def wholeDigits : Scaled → List Char → Scaled
  | s, [] => s
  | s, c :: rest =>
    if s.takes c then wholeDigits ⟨s.word * 10 + Decimal.valueOf c, s.power⟩ rest
    else ⟨s.word, s.power + (rest.length + 1 : Nat)⟩

def fractionDigits : Scaled → List Char → Scaled
  | s, [] => s
  | s, c :: rest =>
    if s.takes c then fractionDigits ⟨s.word * 10 + Decimal.valueOf c, s.power - 1⟩ rest
    else s

def powerOfTen (n : Nat) : Float :=
  Float.ofScientific 1 false n

def scaleDown : Nat → Float → Nat → Float
  | 0, x, _ => x
  | fuel + 1, x, n =>
    if n ≤ 308 then x / powerOfTen n
    else if x == 0.0 then x
    else scaleDown fuel (x / powerOfTen 308) (n - 308)

def Scaled.toFloat? (s : Scaled) : Option Float :=
  let x := (UInt64.ofNat s.word).toFloat
  if s.power < 0 then some (scaleDown 4 x s.power.natAbs)
  else if s.word = 0 then some x
  else if 308 < s.power then none
  else
    let scaled := x * powerOfTen s.power.natAbs
    if scaled.isInf then none else some scaled

structure Parts where
  negative : Bool
  whole : List Char
  fraction : Option (List Char)
  exponent : Option (List Char)
deriving DecidableEq

def Parts.ofText (cs : List Char) : Parts :=
  let (negative, unsigned) := match cs with
    | '-' :: rest => (true, rest)
    | rest => (false, rest)
  let afterWhole := unsigned.dropWhile Char.isDigit
  let (fraction, afterFraction) := match afterWhole with
    | '.' :: rest => (some (rest.takeWhile Char.isDigit), rest.dropWhile Char.isDigit)
    | rest => (none, rest)
  let exponent := match afterFraction with
    | [] => none
    | _ :: rest => some rest
  ⟨negative, unsigned.takeWhile Char.isDigit, fraction, exponent⟩

def signedFloat (negative : Bool) (x : Float) : Number :=
  .float (if negative then -x else x)

/-- The greatest exponent that is added to a power; a greater one decides by its sign alone. -/
def exponentMax : Nat := 2147483647

def floatValue? (negative : Bool) (s : Scaled) (exponent : Option (List Char)) : Option Number :=
  match exponent with
  | none => s.toFloat?.map (signedFloat negative)
  | some cs =>
    let e := (Decimal.signed? cs).getD 0
    if exponentMax < e.natAbs then
      if s.word ≠ 0 && 0 < e then none else some (signedFloat negative 0.0)
    else (Scaled.toFloat? ⟨s.word, s.power + e⟩).map (signedFloat negative)

def ofText? (cs : List Char) : Option Number :=
  let p := Parts.ofText cs
  let s := wholeDigits ⟨0, 0⟩ p.whole
  match p.fraction, p.exponent with
  | none, none =>
    if s.power ≠ 0 then floatValue? p.negative s none
    else if !p.negative then some (.int s.word)
    else if s.word = 0 || Decimal.twoTo 63 < s.word then
      some (signedFloat true (UInt64.ofNat s.word).toFloat)
    else some (.int (-(s.word : Int)))
  | fraction, exponent =>
    floatValue? p.negative (fractionDigits s (fraction.getD [])) exponent

end ErpGateway.Json.Number
