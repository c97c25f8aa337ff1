import EventProbe.Text.Numeral
import EventProbe.Time.Calendar

/-!
# Instants

An instant of universal time with nanoseconds. A leap second is the second before it with
nanoseconds from 10⁹ on, so that it has a text of its own.
-/

namespace EventProbe

/-- An instant: seconds since 1 January 1970 and nanoseconds. -/
structure Instant where
  second : Int
  nano : Nat
  deriving DecidableEq, Repr

namespace Instant

def nanosPerSecond : Nat := 1000000000

def ofNanos (n : Nat) : Instant :=
  ⟨n / nanosPerSecond, n % nanosPerSecond⟩

/-- The instant of a time stamp, if its date is in the years that dates may have. Only the last second
of a minute may have the nanoseconds of a leap second. -/
def ofTimestamp? (second : Int) (nano : Nat) : Option Instant :=
  let (firstYear, lastYear) := Calendar.yearRange
  let year := (Calendar.dateOf (second / 86400 + Calendar.epoch)).year
  if firstYear ≤ year ∧ year ≤ lastYear ∧
      (nano < nanosPerSecond ∨ nano < 2 * nanosPerSecond ∧ second % 60 = 59) then some ⟨second, nano⟩
  else none

/-- How many digits of the fraction of a second are written. -/
inductive Fraction where
  | nanos
  /-- None, three, six or nine: the fewest that lose nothing. -/
  | shortest

/-- A year with four digits, or with a sign and at least four digits when it needs more. -/
def yearText (year : Int) : String :=
  if 0 ≤ year ∧ year ≤ 9999 then padded 4 year.toNat
  else (if year < 0 then "-" else "+") ++ padded 4 year.natAbs

/-- The fraction of a second, with its point. -/
def fractionText (fraction : Fraction) (nano : Nat) : String :=
  match fraction with
  | .nanos => "." ++ padded 9 nano
  | .shortest =>
    if nano = 0 then ""
    else if nano % 1000000 = 0 then "." ++ padded 3 (nano / 1000000)
    else if nano % 1000 = 0 then "." ++ padded 6 (nano / 1000)
    else "." ++ padded 9 nano

def text (fraction : Fraction) (t : Instant) : String :=
  let date := Calendar.dateOf (t.second / 86400 + Calendar.epoch)
  let inDay := (t.second % 86400).toNat
  let leap := nanosPerSecond ≤ t.nano
  let second := inDay % 60 + if leap then 1 else 0
  let nano := if leap then t.nano - nanosPerSecond else t.nano
  yearText date.year ++ "-" ++ padded 2 date.month ++ "-" ++ padded 2 date.day ++ "T"
    ++ padded 2 (inDay / 3600) ++ ":" ++ padded 2 (inDay / 60 % 60) ++ ":" ++ padded 2 second
    ++ fractionText fraction nano ++ "Z"

end Instant

end EventProbe
