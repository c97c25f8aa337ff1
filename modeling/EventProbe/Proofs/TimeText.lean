import EventProbe.Proofs.InstantText
import EventProbe.Proofs.Replay
import Mathlib.Data.String.Basic

/-! The texts of times. A time in nanoseconds since 1970 is shown as a date and a time of day, each
number in digits of a fixed width, so that texts are ordered as the times are, and as an instant that is
read back from the text. -/
namespace EventProbe

/-! ## Stamps -/

/-- A date and a time of day of universal time. -/
structure Stamp where
  date : Calendar.Date
  hour : Nat
  minute : Nat
  second : Nat
  nano : Nat

namespace Stamp
open Numeral

/-- The characters are the moment as `YYYY-MM-DDThh:mm:ss.nnnnnnnnnZ`. -/
inductive Written (m : Stamp) : List Char → Prop where
  | intro : m.date.year = (year : Nat) → Digits 4 year y → Digits 2 m.date.month mo →
      Digits 2 m.date.day d → Digits 2 m.hour h → Digits 2 m.minute mi → Digits 2 m.second s →
      Digits 9 m.nano n → Written m (y ++ '-' :: (mo ++ '-' :: (d ++ 'T' :: (h ++ ':' :: (mi ++
        ':' :: (s ++ '.' :: (n ++ ['Z'])))))))

/-- The moment is so many nanoseconds after the beginning of 1970: so many whole days, and the time of
the day. -/
structure Names (m : Stamp) (t : Nat) : Prop where
  hour : m.hour < 24
  minute : m.minute < 60
  second : m.second < 60
  nano : m.nano < Instant.nanosPerSecond
  elapsed : ∃ days, m.date = Calendar.dayAfter days ∧
    t = (((days * 24 + m.hour) * 60 + m.minute) * 60 + m.second) * Instant.nanosPerSecond + m.nano

/-- The moment so many nanoseconds after the beginning of 1970. -/
def after (t : Nat) : Stamp :=
  let second := t / Instant.nanosPerSecond
  ⟨Calendar.dayAfter (second / 86400), second / 3600 % 24, second / 60 % 60, second % 60,
    t % Instant.nanosPerSecond⟩

theorem after_names (t : Nat) : (after t).Names t := by
  have split := Nat.div_add_mod t Instant.nanosPerSecond
  have small := Nat.mod_lt t (show 0 < Instant.nanosPerSecond by decide)
  refine ⟨Nat.mod_lt _ (by decide), Nat.mod_lt _ (by decide), Nat.mod_lt _ (by decide), small, _, rfl,
    ?_⟩
  simp only [after]
  generalize t / Instant.nanosPerSecond = second at split ⊢
  have whole : ((second / 86400 * 24 + second / 3600 % 24) * 60 + second / 60 % 60) * 60 +
      second % 60 = second := by omega
  rw [whole, Nat.mul_comm, split]

/-- The widths of the numbers in the text of a moment, and what stands behind each. -/
def shape : List (Nat × Char) :=
  [(4, '-'), (2, '-'), (2, 'T'), (2, ':'), (2, ':'), (2, '.'), (9, 'Z')]

/-- Numbers in digits of fixed widths, each with a character behind it. -/
def layOut : List (Nat × Char) → List Nat → List Char
  | (width, close) :: shape, n :: rest => lastDigits width n ++ close :: layOut shape rest
  | _, _ => []

def numbers (m : Stamp) : List Nat :=
  [m.date.year.toNat, m.date.month, m.date.day, m.hour, m.minute, m.second, m.nano]

def Fit : List (Nat × Char) → List Nat → Prop :=
  List.Forall₂ fun part n => n < 10 ^ part.1

theorem layOut_lt {shape : List (Nat × Char)} {xs ys : List Nat} (fit : Fit shape xs)
    (fit' : Fit shape ys) (less : xs < ys) : layOut shape xs < layOut shape ys := by
  induction fit generalizing ys with
  | nil =>
    cases fit'
    exact absurd less (List.not_lt_nil _)
  | @cons part x shape xs small fit ih =>
    cases fit' with
    | @cons _ y _ ys small' fit' =>
      simp only [layOut]
      obtain head | ⟨rfl, tail⟩ := List.cons_lt_cons_iff.mp less
      · apply append_lt_append _ (lastDigits_lt head small')
        rw [(digits_lastDigits small).length, (digits_lastDigits small').length]
      · apply List.append_left_lt
        rw [List.cons_lt_cons_iff]
        exact .inr ⟨rfl, ih fit' tail⟩

theorem length_layOut {shape : List (Nat × Char)} {xs : List Nat} (fit : Fit shape xs) :
    (layOut shape xs).length = (shape.map (·.1 + 1)).sum := by
  induction fit with
  | nil => rfl
  | cons small fit ih =>
    rw [layOut, List.length_append, (digits_lastDigits small).length, List.length_cons, ih,
      List.map_cons, List.sum_cons]
    omega

section Words
variable {t t' : Nat}

/-- A word of nanoseconds ends before the year 10000. -/
theorem days_lt (fits : t < wordLimit) : t / Instant.nanosPerSecond / 86400 < 2932897 := by
  simp only [wordLimit, Instant.nanosPerSecond] at *
  omega

theorem after_year (fits : t < wordLimit) :
    1970 ≤ (after t).date.year ∧ (after t).date.year ≤ 9999 :=
  Calendar.dayAfter_year (days_lt fits)

theorem after_fit (fits : t < wordLimit) : Fit shape (after t).numbers := by
  have year := after_year fits
  have names := after_names t
  obtain ⟨⟨_, month⟩, _, day⟩ := Calendar.isValid_iff.mp
    (Calendar.dayAfter_isValid (t / Instant.nanosPerSecond / 86400))
  have nano := names.nano
  simp only [Instant.nanosPerSecond] at nano
  refine .cons ?_ (.cons ?_ (.cons ?_ (.cons ?_ (.cons ?_ (.cons ?_ (.cons nano .nil))))))
  · dsimp only
    omega
  · exact Nat.lt_of_le_of_lt month (by decide)
  · exact Nat.lt_of_le_of_lt (day.trans (Calendar.monthLength_le_31 _ _)) (by decide)
  · exact Nat.lt_trans names.hour (by decide)
  · exact Nat.lt_trans names.minute (by decide)
  · exact Nat.lt_trans names.second (by decide)

/-- Later times have greater numbers, the first that differ compared. -/
theorem numbers_lt (fits : t < wordLimit) (fits' : t' < wordLimit) (less : t < t') :
    (after t).numbers < (after t').numbers := by
  have year := after_year fits
  have year' := after_year fits'
  simp only [numbers, List.cons_lt_cons_iff]
  by_cases day : t / Instant.nanosPerSecond / 86400 < t' / Instant.nanosPerSecond / 86400
  · have before : (after t).date.Before (after t').date := Calendar.before_dayAfter day
    unfold Calendar.Date.Before at before
    omega
  · have same : t / Instant.nanosPerSecond / 86400 = t' / Instant.nanosPerSecond / 86400 := by
      simp only [Instant.nanosPerSecond] at *
      omega
    have date : (after t).date = (after t').date := congrArg Calendar.dayAfter same
    simp only [date, true_and]
    simp only [after, Instant.nanosPerSecond] at *
    omega

theorem dateOf_eq (t : Nat) :
    Calendar.dateOf ((t / Instant.nanosPerSecond : Nat) / 86400 + Calendar.epoch) = (after t).date := by
  have days : ((t / Instant.nanosPerSecond : Nat) : Int) / 86400 =
      (t / Instant.nanosPerSecond / 86400 : Nat) := by omega
  rw [days, Calendar.dateOf_eq]
  rfl

theorem ofNanos_eq (t : Nat) :
    Instant.ofNanos t = ⟨(t / Instant.nanosPerSecond : Nat), t % Instant.nanosPerSecond⟩ := by
  rw [Instant.ofNanos, Int.natCast_ediv]

/-- The seconds of a word of nanoseconds are a signed word, and dates go far enough for all of them. -/
theorem timeInstant?_eq (fits : t < wordLimit) : timeInstant? t = some (Instant.ofNanos t) := by
  have signed : Int.bmod (t / Instant.nanosPerSecond : Nat) wordLimit =
      (t / Instant.nanosPerSecond : Nat) := by
    have small : t / Instant.nanosPerSecond < 9223372036854775808 := by
      simp only [wordLimit, Instant.nanosPerSecond] at *
      omega
    generalize t / Instant.nanosPerSecond = second at small
    apply Int.bmod_eq_of_le <;> simp only [wordLimit] <;> omega
  have year := after_year fits
  have small := (after_names t).nano
  simp only [after] at small
  rw [timeInstant?, signed]
  simp only [Instant.ofTimestamp?, Calendar.yearRange, dateOf_eq]
  rw [if_pos ⟨by omega, by omega, .inl small⟩, ofNanos_eq]

theorem timeText_of_instant {i : Instant} (found : timeInstant? t = some i) :
    timeText t = i.text .nanos := by
  rw [timeText, found, Option.map_some, Option.getD_some]

/-- The parts of an instant are those of the moment. -/
theorem parts_ofNanos (t : Nat) : (Instant.ofNanos t).parts =
    ⟨(after t).date, (after t).hour, (after t).minute, (after t).second, (after t).nano, 0⟩ := by
  have inDay : ((t / Instant.nanosPerSecond : Nat) % 86400 : Int).toNat =
      t / Instant.nanosPerSecond % 86400 := by omega
  have time : t / Instant.nanosPerSecond % 86400 / 3600 = (after t).hour ∧
      t / Instant.nanosPerSecond % 86400 / 60 % 60 = (after t).minute ∧
      t / Instant.nanosPerSecond % 86400 % 60 = (after t).second := by
    simp only [after]
    omega
  have whole : ¬ Instant.nanosPerSecond ≤ t % Instant.nanosPerSecond :=
    Nat.not_le.mpr (after_names t).nano
  simp only [Instant.parts, ofNanos_eq, dateOf_eq, inDay, time, whole, if_false, Nat.add_zero]
  rfl

theorem toList_timeText (fits : t < wordLimit) :
    (timeText t).toList = layOut shape (after t).numbers := by
  obtain ⟨first, last⟩ := after_year fits
  have fit := after_fit fits
  simp only [Fit, shape, numbers, List.forall₂_cons, List.forall₂_nil_left_iff] at fit
  obtain ⟨year, month, day, hour, minute, second, nano, _⟩ := fit
  have point : ".".toList = ['.'] := rfl
  have positive : 0 ≤ (after t).date.year := by omega
  rw [timeText_of_instant (timeInstant?_eq fits), Instant.toList_text, parts_ofNanos,
    Instant.yearText, if_pos ⟨positive, last⟩]
  simp only [Instant.fractionText, String.toList_append, point, toList_padded (by decide) year,
    toList_padded (by decide) month, toList_padded (by decide) day, toList_padded (by decide) hour,
    toList_padded (by decide) minute, toList_padded (by decide) second, toList_padded (by decide) nano,
    shape, numbers, layOut, List.cons_append, List.nil_append]

/-- The text of a time is written as its moment. -/
theorem timeText_written (fits : t < wordLimit) : (after t).Written (timeText t).toList := by
  have year := after_year fits
  have fit := after_fit fits
  simp only [Fit, shape, numbers, List.forall₂_cons, List.forall₂_nil_left_iff] at fit
  obtain ⟨small, month, day, hour, minute, second, nano, _⟩ := fit
  rw [toList_timeText fits]
  exact .intro (by omega) (digits_lastDigits small) (digits_lastDigits month) (digits_lastDigits day)
    (digits_lastDigits hour) (digits_lastDigits minute) (digits_lastDigits second)
    (digits_lastDigits nano)

theorem timeText_lt (fits : t < wordLimit) (fits' : t' < wordLimit) (less : t < t') :
    timeText t < timeText t' := by
  rw [String.lt_iff_toList_lt, toList_timeText fits, toList_timeText fits']
  exact layOut_lt (after_fit fits) (after_fit fits') (numbers_lt fits fits' less)

theorem length_timeText (fits : t < wordLimit) : (timeText t).length = 30 := by
  rw [← String.length_toList, toList_timeText fits, length_layOut (after_fit fits)]
  rfl

end Words

end Stamp

end EventProbe
