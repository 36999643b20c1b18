import ErpGateway.Calendar.Date

namespace ErpGateway.Calendar

def nanosPerSecond : Nat := 1000000000
def nanosPerDay : Nat := 86400 * nanosPerSecond

def timeOfDay (nanos : Nat) : Nat :=
  nanos % nanosPerDay

def clockText (nanos : Nat) : List Char :=
  let seconds := nanos / nanosPerSecond
  Decimal.twoDigits (seconds / 3600) ++ ':' :: Decimal.twoDigits (seconds / 60 % 60) ++
    ':' :: Decimal.twoDigits (seconds % 60)

def timeText (nanos : Nat) : List Char :=
  clockText nanos ++ '.' :: Decimal.padded 3 (nanos % nanosPerSecond / 1000000)

def dateTimeText (days : Int) (nanos : Nat) : String :=
  (Date.ofDays days).text ++ String.ofList ('T' :: timeText nanos)

def fractionText (nanos : Nat) : List Char :=
  let fraction := nanos % nanosPerSecond
  if fraction = 0 then []
  else if fraction % 1000000 = 0 then '.' :: Decimal.padded 3 (fraction / 1000000)
  else if fraction % 1000 = 0 then '.' :: Decimal.padded 6 (fraction / 1000)
  else '.' :: Decimal.padded 9 fraction

def offsetText (minutes : Int) : List Char :=
  (if minutes < 0 then '-' else '+') :: Decimal.twoDigits (minutes.natAbs / 60) ++
    ':' :: Decimal.twoDigits (minutes.natAbs % 60)

/-- A moment of universal time as a clock shows it that is ahead by `offset` minutes. -/
def offsetDateTimeText (days : Int) (nanos : Nat) (offset : Int) : String :=
  let local_ := (nanos : Int) + offset * 60 * nanosPerSecond
  let day := days + local_ / nanosPerDay
  let time := (local_ % nanosPerDay).toNat
  (Date.ofDays day).text ++
    String.ofList ('T' :: clockText time ++ fractionText time ++ offsetText offset)

end ErpGateway.Calendar
