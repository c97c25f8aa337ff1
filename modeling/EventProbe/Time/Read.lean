import EventProbe.Text.Blank
import EventProbe.Text.Utf8
import EventProbe.Time.Instant

/-!
# Reading instants

Dates of documents are written as `2024-01-01T00:00:00Z`, with some freedom: blanks around numbers,
a lower-case or blank separator, a fraction of a second, and an offset from universal time in place
of `Z`. A number is checked against its range as soon as it is read; whether the date exists is
checked after the whole text was read.
-/

namespace EventProbe.Instant

inductive ReadFault where
  | outOfRange
  | impossible
  | tooShort
  | invalid
  | tooLong
  deriving DecidableEq, Repr

def ReadFault.message : ReadFault → String
  | .outOfRange => "input is out of range"
  | .impossible => "no possible date and time matching input"
  | .tooShort => "premature end of input"
  | .invalid => "input contains invalid characters"
  | .tooLong => "trailing input"

/-- A reader of a part: its value and what is left. -/
abbrev Part (α : Type) := List Char → Except ReadFault (α × List Char)

/-- Reads at least one and at most `most` digits. -/
def digitsUpTo (most : Nat) : Part Nat :=
  fun rest =>
    match rest with
    | [] => .error .tooShort
    | _ =>
      let digits := (rest.take most).takeWhile fun c => (Numeral.digit? c).isSome
      if digits.isEmpty then .error .invalid
      else .ok (digits.foldl (fun n c => n * 10 + (c.toNat - 48)) 0, rest.drop digits.length)

/-- Reads a number of at most `most` digits in a range, after white space. -/
def ranged (most low high : Nat) : Part Nat :=
  fun rest =>
    match digitsUpTo most (Text.trimStart rest) with
    | .error f => .error f
    | .ok (n, rest) => if low ≤ n ∧ n ≤ high then .ok (n, rest) else .error .outOfRange

/-- Reads a year: four digits, or any number of them after a sign. -/
def year : Part Int :=
  fun rest =>
    let signed (minus : Bool) (rest : List Char) : Except ReadFault (Int × List Char) :=
      match digitsUpTo rest.length rest with
      | .error f => .error f
      | .ok (n, rest) =>
        let y : Int := if minus then -n else n
        if -2147483648 ≤ y ∧ y < 2147483648 then .ok (y, rest) else .error .outOfRange
    match Text.trimStart rest with
    | '-' :: rest => signed true rest
    | '+' :: rest => signed false rest
    | rest => (digitsUpTo 4 rest).map fun (n, rest) => ((n : Int), rest)

def separator (c : Char) (rest : List Char) : Except ReadFault (List Char) :=
  match Text.trimStart rest with
  | [] => .error .tooShort
  | d :: rest => if c = d then .ok rest else .error .invalid

/-- Reads the fraction of a second as nanoseconds, if there is one. Digits after the ninth are
dropped. -/
def fraction : Part Nat :=
  fun rest =>
    match rest with
    | '.' :: rest =>
      match digitsUpTo 9 rest with
      | .error f => .error f
      | .ok (n, left) =>
        let count := rest.length - left.length
        .ok (n * Nat.pow 10 (9 - count), left.dropWhile fun c => (Numeral.digit? c).isSome)
    | rest => .ok (0, rest)

/-- The value of two digits that come next; a character of several bytes counts as two. -/
def twoDigits (rest : List Char) : Except ReadFault (Nat × Nat × List Char) :=
  if Utf8.width rest < 2 then .error .tooShort
  else match rest with
    | a :: b :: rest =>
      match Numeral.digit? a, Numeral.digit? b with
      | some m, some n => .ok (m, n, rest)
      | _, _ => .error .invalid
    | _ => .error .invalid

def signedOffset (minus : Bool) : Part Int :=
  fun rest =>
    match twoDigits rest with
    | .error f => .error f
    | .ok (h, h', rest) =>
      match twoDigits (rest.dropWhile fun c => c == ':' || Text.isBlank c) with
      | .error f => .error f
      | .ok (m, m', rest) =>
        if 6 ≤ m then .error .outOfRange
        else
          let seconds : Int := (h * 10 + h') * 3600 + (m * 10 + m') * 60
          .ok (if minus then -seconds else seconds, rest)

def offset : Part Int :=
  fun rest =>
    match Text.trimStart rest with
    | [] => .error .tooShort
    | 'Z' :: rest => .ok (0, rest)
    | 'z' :: rest => .ok (0, rest)
    | '+' :: rest => signedOffset false rest
    | '-' :: rest => signedOffset true rest
    | '\u2212' :: rest => signedOffset true rest
    | a :: b :: c :: rest =>
      if [a.toLower, b.toLower, c.toLower] = ['u', 't', 'c'] then .ok (0, rest)
      else .error .invalid
    | _ => .error .invalid

structure Fields where
  date : Calendar.Date
  hour : Nat
  minute : Nat
  second : Nat
  nano : Nat
  offset : Int

def dateFields : Part Calendar.Date :=
  fun rest => do
    let (y, rest) ← year rest
    let rest ← separator '-' rest
    let (m, rest) ← ranged 2 1 12 rest
    let rest ← separator '-' rest
    let (d, rest) ← ranged 2 1 31 rest
    return (⟨y, m, d⟩, rest)

def betweenDateAndTime (rest : List Char) : Except ReadFault (List Char) :=
  match rest with
  | [] => .error .tooShort
  | c :: rest => if c = 't' ∨ c = 'T' ∨ c = ' ' then .ok rest else .error .invalid

def fields : Part Fields :=
  fun rest => do
    let (date, rest) ← dateFields rest
    let rest ← betweenDateAndTime rest
    let (hour, rest) ← ranged 2 0 23 rest
    let rest ← separator ':' rest
    let (minute, rest) ← ranged 2 0 59 rest
    let rest ← separator ':' rest
    let (second, rest) ← ranged 2 0 60 rest
    let (nano, rest) ← fraction rest
    let (offset, rest) ← offset rest
    return (⟨date, hour, minute, second, nano, offset⟩, rest)

/-- The instant that parts name. A sixtieth second is a leap second. -/
def Fields.instant (p : Fields) : Except ReadFault Instant :=
  let (firstYear, lastYear) := Calendar.yearRange
  if !p.date.isValid || p.date.year < firstYear || lastYear < p.date.year then .error .outOfRange
  else if 86400 ≤ p.offset.natAbs then .error .outOfRange
  else
    let leap := p.second = 60
    let second := if leap then 59 else p.second
    let nano := if leap then p.nano + nanosPerSecond else p.nano
    let days := p.date.number - Calendar.epoch
    let second : Int := days * 86400 + p.hour * 3600 + p.minute * 60 + second - p.offset
    let y := (Calendar.dateOf (second / 86400 + Calendar.epoch)).year
    if y < firstYear ∨ lastYear < y then .error .impossible else .ok ⟨second, nano⟩

def read (text : String) : Except ReadFault Instant :=
  match fields text.toList with
  | .error f => .error f
  | .ok (p, rest) => if rest.all Text.isBlank then p.instant else .error .tooLong

end EventProbe.Instant
