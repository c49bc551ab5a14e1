import RankedRelay.Text.Decimal

namespace RankedRelay

structure Span where
  nanos : Nat
deriving DecidableEq, Repr

namespace Span

def ofMillis (ms : Nat) : Span := ⟨ms * 1000000⟩

def ofSeconds (s : Nat) : Span := ⟨s * 1000000000⟩

def millis (d : Span) : Nat := d.nanos / 1000000

/-- Whole milliseconds, as far as a 64-bit word holds them. -/
def millisWord (d : Span) : Nat := d.millis % UInt64.size

def seconds (d : Span) : Nat := d.nanos / 1000000000

def fixedPoint (n places : Nat) : String :=
  let whole := toString (n / Nat.pow 10 places)
  let digits := (Text.padZeros places (n % Nat.pow 10 places)).toList
  match (digits.reverse.dropWhile (· == '0')).reverse with
  | [] => whole
  | fraction => whole ++ "." ++ String.ofList fraction

def text (d : Span) : String :=
  if 1000000000 ≤ d.nanos then fixedPoint d.nanos 9 ++ "s"
  else if 1000000 ≤ d.nanos then fixedPoint d.nanos 6 ++ "ms"
  else if 1000 ≤ d.nanos then fixedPoint d.nanos 3 ++ "µs"
  else toString d.nanos ++ "ns"

end Span

/-- Seconds since 1970 in UTC, and nanoseconds behind them. A nanosecond count of a second or
more stands for a leap second. -/
structure Moment where
  seconds : Int
  nanos : Nat
deriving DecidableEq, Repr

namespace Moment

/-- Year, month and day of a day counted from 1970-01-01. Years are taken from March on, in eras
of 400. -/
def civil (day : Int) : Int × Nat × Nat :=
  let shifted := day + 719468
  let era := shifted.fdiv 146097
  let dayOfEra := (shifted - era * 146097).toNat
  let year := (dayOfEra - dayOfEra / 1460 + dayOfEra / 36524 - dayOfEra / 146096) / 365
  let dayOfYear := dayOfEra - (365 * year + year / 4 - year / 100)
  let shiftedMonth := (5 * dayOfYear + 2) / 153
  let d := dayOfYear - (153 * shiftedMonth + 2) / 5 + 1
  let m := if shiftedMonth < 10 then shiftedMonth + 3 else shiftedMonth - 9
  (era * 400 + year + (if m ≤ 2 then 1 else 0), m, d)

def yearText (y : Int) : String :=
  let sign := if y < 0 then "-" else if 9999 < y then "+" else ""
  sign ++ Text.padZeros 4 y.natAbs

/-- The fewest of 0, 3, 6 and 9 digits that hold the fraction. -/
def fractionText (nanos : Nat) : String :=
  if nanos = 0 then ""
  else if nanos % 1000000 = 0 then "." ++ Text.padZeros 3 (nanos / 1000000)
  else if nanos % 1000 = 0 then "." ++ Text.padZeros 6 (nanos / 1000)
  else "." ++ Text.padZeros 9 nanos

def text (t : Moment) : String :=
  let (y, m, d) := civil (t.seconds.fdiv 86400)
  let s := (t.seconds.fmod 86400).toNat
  let leap := if 1000000000 ≤ t.nanos then 1 else 0
  let two := Text.padZeros 2
  yearText y ++ "-" ++ two m ++ "-" ++ two d ++ "T" ++ two (s / 3600) ++ ":" ++ two (s / 60 % 60)
    ++ ":" ++ two (s % 60 + leap) ++ fractionText (t.nanos - leap * 1000000000) ++ "Z"

def after (t : Moment) (ms : Nat) : Moment :=
  let nanos := t.nanos + ms * 1000000
  ⟨t.seconds + (nanos / 1000000000 : Nat), nanos % 1000000000⟩

end Moment

end RankedRelay
