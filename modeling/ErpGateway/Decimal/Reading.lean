import ErpGateway.Text.Ascii
import ErpGateway.Decimal.Integer
import ErpGateway.Decimal.Binary64

namespace ErpGateway.Decimal

structure Spelling where
  whole : List Char
  fraction : List Char
  exponent : Int
deriving DecidableEq, Repr

def exponentPart? : List Char → Option Int
  | [] => some 0
  | c :: rest => if c == 'e' || c == 'E' then signed? rest else none

def spelling? (cs : List Char) : Option Spelling :=
  let whole := cs.takeWhile Char.isDigit
  let afterWhole := cs.dropWhile Char.isDigit
  let (fraction, afterFraction) := match afterWhole with
    | '.' :: rest => (rest.takeWhile Char.isDigit, rest.dropWhile Char.isDigit)
    | rest => ([], rest)
  if whole.isEmpty && fraction.isEmpty then none
  else (exponentPart? afterFraction).map fun e => ⟨whole, fraction, e⟩

def infinity : Float := 1.0 / 0.0
def notANumber : Float := 0.0 / 0.0

/-- The float nearest to a spelled decimal. Beyond `10 ^ 400` it is infinite, below `10 ^ -400` zero,
whatever the digits are. -/
def Spelling.nearest (s : Spelling) : Float :=
  let n := ofDigits (s.whole ++ s.fraction)
  let scale := s.exponent - s.fraction.length
  let lead := scale + (digits n).length
  if n = 0 || lead < -400 then 0.0
  else if 400 < lead then infinity
  else Float.ofScientific n (scale < 0) scale.natAbs

def magnitude? (cs : List Char) : Option Float :=
  let name := Text.lower cs
  if name == "inf".toList || name == "infinity".toList then some infinity
  else if name == "nan".toList then some notANumber
  else (spelling? cs).map Spelling.nearest

def float? : List Char → Option Float
  | '-' :: rest => (magnitude? rest).map fun x => -x
  | '+' :: rest => magnitude? rest
  | cs => magnitude? cs

end ErpGateway.Decimal
