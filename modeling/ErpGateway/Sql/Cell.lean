import ErpGateway.Json.Basic
import ErpGateway.Calendar.Moment
import ErpGateway.Text.Utf8

namespace ErpGateway.Sql

open Calendar

inductive Cell where
  | null
  | int (n : Int)
  | single (x : Float)
  | double (x : Float)
  | bit (b : Bool)
  | text (s : String)
  | guid (octets : Text.Octets)
  | binary (octets : Text.Octets)
  | numeric (unscaled : Int) (scale : Nat)
  /-- Days since 1900-01-01 and three-hundredths of a second. -/
  | dateTime (days : Int) (fragments : Nat)
  /-- Days since 1900-01-01 and minutes. -/
  | smallDateTime (days : Int) (minutes : Nat)
  /-- Days since 0001-01-01. -/
  | date (days : Int)
  /-- Units of `10 ^ -scale` seconds. -/
  | time (increments scale : Nat)
  | dateTime2 (days : Int) (increments scale : Nat)
  /-- Universal time, with the minutes that the local clock is ahead. -/
  | dateTimeOffset (days : Int) (increments scale : Nat) (offset : Int)

namespace Cell

def daysTo1900 : Int := 693595

/-- `10 ^ n` by repeated squaring, each product rounded; `square` is `10 ^ 2 ^ i` at the `i`-th
binary digit. -/
def powerBySquares (fuel : Nat) (n : Nat) (square result : Float) : Float :=
  match fuel with
  | 0 => result
  | fuel + 1 =>
    let result := if n % 2 = 1 then result * square else result
    if n / 2 = 0 then result else powerBySquares fuel (n / 2) (square * square) result

def powerOfTen (n : Nat) : Float :=
  powerBySquares 64 n 10.0 1.0

def hexText (octets : Text.Octets) : List Char :=
  octets.flatMap fun b => [Nat.digitChar (b.toNat / 16), Nat.digitChar (b.toNat % 16)]

def guidText (octets : Text.Octets) : List Char :=
  let hex := hexText octets
  hex.take 8 ++ '-' :: (hex.drop 8).take 4 ++ '-' :: (hex.drop 12).take 4 ++
    '-' :: (hex.drop 16).take 4 ++ '-' :: hex.drop 20

def nanosOfIncrements (increments scale : Nat) : Nat :=
  timeOfDay (increments * Decimal.tenTo (9 - scale))

def toJson : Cell → Json
  | null => .null
  | int n => .int n
  | single x => .float x.toFloat32.toFloat
  | double x => .float x
  | bit b => .bool b
  | text s => .text s
  | guid octets => .text (String.ofList (guidText octets))
  | binary octets => .text (Text.ofUtf8Lossy octets)
  | numeric unscaled scale => .float (Decimal.floatOfInt unscaled / powerOfTen scale)
  | dateTime days fragments =>
    .text (dateTimeText (daysTo1900 + days) (timeOfDay (fragments * nanosPerSecond / 300)))
  | smallDateTime days minutes =>
    .text (dateTimeText (daysTo1900 + days) (timeOfDay (minutes * 60 * nanosPerSecond)))
  | date days => .text (Date.ofDays days).text
  | time increments scale =>
    .text (String.ofList (timeText (nanosOfIncrements increments scale)))
  | dateTime2 days increments scale =>
    .text (dateTimeText days (nanosOfIncrements increments scale))
  | dateTimeOffset days increments scale offset =>
    .text (offsetDateTimeText days (nanosOfIncrements increments scale) offset)

end Cell

end ErpGateway.Sql
