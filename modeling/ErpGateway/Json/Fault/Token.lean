import ErpGateway.Json.Fault
import ErpGateway.Json.Reading

/-!
Walking past the words, numbers and strings of a JSON text. A walk stops at the first octet from which
the text cannot go on, and where a number or a string that is complete has no value.
-/
namespace ErpGateway.Json.Fault

open Text (Octets)

/-- What stops a walk through a text: a fault, at the place from which `left` octets are left; or one
in a text that is embedded, whose place is known. -/
inductive Stop where
  | here (reason : Reason) (left : Nat)
  | embedded (fault : Fault)
deriving DecidableEq, Repr

abbrev Walk := Except Stop Octets

def stop (reason : Reason) (rest : Octets) : Except Stop α :=
  .error (.here reason rest.length)

def stopAfterNext (reason : Reason) (rest : Octets) : Except Stop α :=
  .error (.here reason (rest.length - 1))

def skipSpace (text : Octets) : Octets :=
  text.dropWhile Reader.isSpace

def pastWord : (expected : Octets) → Octets → Walk
  | [], rest => .ok rest
  | _ :: _, [] => stop .endInValue []
  | e :: expected, b :: rest => if e = b then pastWord expected rest else stop .unknownWord rest

def pastDigits (text : Octets) : Octets :=
  text.dropWhile isDigitOctet

def pastPowerDigits : Octets → Walk
  | [] => stop .endInValue []
  | b :: rest => if isDigitOctet b then .ok (pastDigits rest) else stop .badNumber rest

def pastPower : Octets → Walk
  | b :: rest =>
    if !isExponentMark b then .ok (b :: rest)
    else
      match rest with
      | sign :: after =>
        if sign = 0x2B || sign = 0x2D then pastPowerDigits after else pastPowerDigits rest
      | [] => pastPowerDigits []
  | [] => .ok []

def pastFraction : Octets → Walk
  | b :: rest =>
    if b != 0x2E then pastPower (b :: rest)
    else
      match rest with
      | [] => stop .endInValue []
      | c :: _ => if isDigitOctet c then pastPower (pastDigits rest) else stopAfterNext .badNumber rest
  | [] => .ok []

def pastUnsigned : Octets → Walk
  | [] => stop .endInValue []
  | b :: rest =>
    if b = 0x30 then
      match rest with
      | c :: _ => if isDigitOctet c then stopAfterNext .badNumber rest else pastFraction rest
      | [] => .ok []
    else if isDigitOctet b then pastFraction (pastDigits rest)
    else stop .badNumber rest

def powerDigitsRead (digits : List Char) : Option Nat :=
  (List.range (digits.length + 1)).find? fun n =>
    Number.exponentMax < (Decimal.natural? (digits.take n)).getD 0

/-- The octets that are left where a number is known to be too large: behind its last digit, or behind
the digit of the exponent that decides. -/
def leftOfTooLarge (spelling rest : Octets) : Nat :=
  let power := (spelling.dropWhile fun b => !isExponentMark b).drop 1
  let digits := power.dropWhile fun b => b = 0x2B || b = 0x2D
  match powerDigitsRead (digits.map fun b => Char.ofNat b.toNat) with
  | some n => rest.length + (digits.length - n)
  | none => rest.length

def pastNumber (text : Octets) : Walk := do
  let unsigned := if text.head? = some 0x2D then text.drop 1 else text
  let rest ← pastUnsigned unsigned
  let spelling := text.take (text.length - rest.length)
  match numberOf? spelling with
  | some _ => return rest
  | none => .error (.here .numberTooLarge (leftOfTooLarge spelling rest))

def pastUnit : Octets → Except Stop (Nat × Octets)
  | a :: b :: c :: d :: rest =>
    if [a, b, c, d].all isHexOctet then .ok (hexQuad a b c d, rest) else stop .badEscape rest
  | _ => stop .endInText []

def pastLowSurrogate : Octets → Walk
  | [] => stop .endInText []
  | [b] => if b = 0x5C then stop .endInText [] else stop .escapeEnds []
  | b :: c :: rest =>
    if b != 0x5C then stop .escapeEnds (c :: rest)
    else if c != 0x75 then stop .escapeEnds rest
    else do
      let (unit, rest) ← pastUnit rest
      if isLowSurrogate unit then return rest else stop .loneSurrogate rest

def pastEscape : Octets → Walk
  | [] => stop .endInText []
  | e :: rest =>
    if isShortEscape e then .ok rest
    else if e != 0x75 then stop .badEscape rest
    else do
      let (unit, rest) ← pastUnit rest
      if isLowSurrogate unit then stop .loneSurrogate rest
      else if isHighSurrogate unit then pastLowSurrogate rest
      else return rest

def pastText : (fuel : Nat) → Octets → Walk
  | 0, _ | _, [] => stop .endInText []
  | fuel + 1, b :: rest =>
    if b = 0x22 then .ok rest
    else if b = 0x5C then do pastText fuel (← pastEscape rest)
    else if b < 0x20 then stop .controlCharacter rest
    else pastText fuel rest

def textAndRest (text : Octets) : Except Stop (Octets × Octets) := do
  let rest ← pastText text.length text
  return (text.take (text.length - rest.length - 1), rest)

end ErpGateway.Json.Fault
