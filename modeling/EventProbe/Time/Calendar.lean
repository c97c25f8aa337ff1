/-!
# The Gregorian calendar

Days are counted from 1 January of the year 1, which is day zero; the calendar is extended backwards
without limit.
-/

namespace EventProbe.Calendar

structure Date where
  year : Int
  month : Nat
  day : Nat
  deriving DecidableEq, Repr

def isLeap (year : Int) : Bool :=
  year % 4 = 0 && (year % 100 ≠ 0 || year % 400 = 0)

/-- Number of the first day of a year. -/
def yearStart (year : Int) : Int :=
  let y := year - 1
  365 * y + y / 4 - y / 100 + y / 400

def monthLengths (leap : Bool) : List Nat :=
  [31, if leap then 29 else 28, 31, 30, 31, 30, 31, 31, 30, 31, 30, 31]

def monthLength (year : Int) (month : Nat) : Nat :=
  (monthLengths (isLeap year)).getD (month - 1) 0

/-- Number of days of a year before a month. -/
def monthStart (year : Int) (month : Nat) : Nat :=
  ((monthLengths (isLeap year)).take (month - 1)).foldl (· + ·) 0

def Date.isValid (d : Date) : Bool :=
  1 ≤ d.month && d.month ≤ 12 && 1 ≤ d.day && d.day ≤ monthLength d.year d.month

def Date.number (d : Date) : Int :=
  yearStart d.year + monthStart d.year d.month + (d.day - 1 : Nat)

/-- The year in which a day lies. The estimate from the mean length of a year is off by at most
one. -/
def yearOf (number : Int) : Int :=
  let guess := number * 400 / 146097 + 1
  if number < yearStart guess then guess - 1
  else if yearStart (guess + 1) ≤ number then guess + 1
  else guess

/-- The month and day of a day of the year, counted from zero, among the months of the given lengths
from `month` on. -/
def monthDay : List Nat → Nat → Nat → Nat × Nat
  | [], month, n => (month, n + 1)
  | length :: rest, month, n =>
    if n < length then (month, n + 1) else monthDay rest (month + 1) (n - length)

def dateOf (number : Int) : Date :=
  let year := yearOf number
  let (month, day) := monthDay (monthLengths (isLeap year)) 1 (number - yearStart year).toNat
  ⟨year, month, day⟩

/-- Number of 1 January 1970. -/
def epoch : Int := 719162

/-- The first and the last year that dates of documents may have. -/
def yearRange : Int × Int := (-262143, 262142)

end EventProbe.Calendar
