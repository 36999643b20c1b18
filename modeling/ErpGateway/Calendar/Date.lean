import ErpGateway.Text.Blank
import ErpGateway.Decimal.Integer

/-!
Days of the Gregorian calendar, extended to all years: day numbers counted from 0001-01-01, and
dates written as `year-month-day`.
-/
namespace ErpGateway.Calendar

structure Date where
  year : Int
  month : Nat
  day : Nat
deriving DecidableEq, Repr

def isLeap (year : Int) : Bool :=
  year % 4 == 0 && (year % 100 != 0 || year % 400 == 0)

def monthLengths (year : Int) : List Nat :=
  [31, if isLeap year then 29 else 28, 31, 30, 31, 30, 31, 31, 30, 31, 30, 31]

def daysOfYears (years : Int) : Int :=
  365 * years + years / 4 - years / 100 + years / 400

def monthAndDay : (lengths : List Nat) → (n : Nat) → Nat × Nat
  | [], n => (0, n)
  | length :: rest, n =>
    if n < length then (0, n)
    else
      let later := monthAndDay rest (n - length)
      (later.1 + 1, later.2)

/-- How many whole years, from year 1 on, lie before a day. The quotient by the mean length of a year
is that number or one less. -/
def yearsBefore (days : Int) : Int :=
  let guess := 400 * days / 146097
  if daysOfYears (guess + 1) ≤ days then guess + 1 else guess

namespace Date

/-- The date that lies `days` days after 0001-01-01. -/
def ofDays (days : Int) : Date :=
  let years := yearsBefore days
  let place := monthAndDay (monthLengths (years + 1)) (days - daysOfYears years).toNat
  ⟨years + 1, place.1 + 1, place.2 + 1⟩

def daysBefore (d : Date) : Nat :=
  ((monthLengths d.year).take (d.month - 1)).foldl (· + ·) (d.day - 1)

def toDays (d : Date) : Int :=
  daysOfYears (d.year - 1) + d.daysBefore

def isValid (d : Date) : Bool :=
  1 ≤ d.month && d.month ≤ 12 && 1 ≤ d.day && d.day ≤ (monthLengths d.year).getD (d.month - 1) 0

def yearText (year : Int) : List Char :=
  if 0 ≤ year && year ≤ 9999 then Decimal.padded 4 year.toNat
  else (if year < 0 then '-' else '+') :: Decimal.padded 4 year.natAbs

def text (d : Date) : String :=
  String.ofList (yearText d.year ++ '-' :: Decimal.twoDigits d.month ++
    '-' :: Decimal.twoDigits d.day)

def digitRun? (most : Nat) (cs : List Char) : Option (Nat × List Char) :=
  let run := (cs.take most).takeWhile Char.isDigit
  if run.isEmpty then none else some (Decimal.ofDigits run, cs.drop run.length)

def year? (cs : List Char) : Option (Int × List Char) :=
  match Text.trimLeft cs with
  | '-' :: rest => (digitRun? rest.length rest).map fun r => (-(r.1 : Int), r.2)
  | '+' :: rest => (digitRun? rest.length rest).map fun r => ((r.1 : Int), r.2)
  | rest => (digitRun? 4 rest).map fun r => ((r.1 : Int), r.2)

def dash? : List Char → Option (List Char)
  | '-' :: rest => some rest
  | _ => none

def yearMin : Int := -262143
def yearMax : Int := 262142

def ofText? (cs : List Char) : Option Date := do
  let (year, rest) ← year? cs
  let rest ← dash? rest
  let (month, rest) ← digitRun? 2 (Text.trimLeft rest)
  let rest ← dash? rest
  let (day, rest) ← digitRun? 2 (Text.trimLeft rest)
  let d : Date := ⟨year, month, day⟩
  if rest.isEmpty && yearMin ≤ year && year ≤ yearMax && d.isValid then some d else none

end Date

end ErpGateway.Calendar
