import EventProbe.Time.Calendar
import Mathlib.Algebra.Order.BigOperators.Group.List
import Mathlib.Algebra.Order.Ring.Nat

/-! The calendar as one day after another. A day is followed by the next of its month, the last of a
month by the first of the next month, and 31 December by 1 January. The date of a day number is that of
the day so many days after the first. -/
namespace EventProbe.Calendar

def Date.next (d : Date) : Date :=
  if d.day < monthLength d.year d.month then { d with day := d.day + 1 }
  else if d.month < 12 then ⟨d.year, d.month + 1, 1⟩
  else ⟨d.year + 1, 1, 1⟩

def firstDay : Date := ⟨1970, 1, 1⟩

/-- The date so many days after 1 January 1970. -/
def dayAfter (days : Nat) : Date :=
  Date.next^[days] firstDay

section Years
variable {y n : Int} {m : Nat}

theorem yearStart_succ (y : Int) : yearStart (y + 1) = yearStart y + (365 + if isLeap y then 1 else 0) := by
  simp only [yearStart, isLeap, Bool.and_eq_true, Bool.or_eq_true, decide_eq_true_eq]
  split <;> omega

theorem yearOf_eq (after : yearStart y ≤ n) (before : n < yearStart (y + 1)) : yearOf n = y := by
  have early : n * 400 / 146097 + 1 ≤ y + 1 := by
    simp only [yearStart] at after before
    omega
  have late : y ≤ n * 400 / 146097 + 1 + 1 := by
    simp only [yearStart] at after before
    omega
  unfold yearOf
  dsimp only
  generalize n * 400 / 146097 + 1 = guess at early late
  have cases : guess = y - 1 ∨ guess = y ∨ guess = y + 1 := by omega
  obtain rfl | rfl | rfl := cases
  · rw [if_neg, if_pos]
    · omega
    · rwa [sub_add_cancel]
    · simp only [yearStart] at after ⊢
      omega
  · rw [if_neg (not_lt.mpr after), if_neg (not_le.mpr before)]
  · rw [if_pos before, add_sub_cancel_right]

end Years

/-! ## Days of a year -/

section Days
variable {y : Int} {m : Nat} {d : Date} {lengths : List Nat}

theorem monthStart_eq (y : Int) (m : Nat) :
    monthStart y m = ((monthLengths (isLeap y)).take (m - 1)).sum := by
  rw [monthStart, List.sum_eq_foldl]

theorem monthLengths_length (leap : Bool) : (monthLengths leap).length = 12 := rfl

theorem monthStart_succ (first : 1 ≤ m) (last : m ≤ 12) :
    monthStart y (m + 1) = monthStart y m + monthLength y m := by
  have bound : m - 1 < (monthLengths (isLeap y)).length := by
    rw [monthLengths_length]
    omega
  have next : m + 1 - 1 = m - 1 + 1 := by omega
  rw [monthStart_eq, monthStart_eq, next, List.take_succ_eq_append_getElem bound, List.sum_append,
    List.sum_singleton, monthLength, List.getD_eq_getElem?_getD, List.getElem?_eq_getElem bound,
    Option.getD_some]

theorem monthStart_end (y : Int) : monthStart y 13 = 365 + if isLeap y then 1 else 0 := by
  cases leap : isLeap y <;> simp [monthStart, leap] <;> rfl

theorem isValid_iff : d.isValid = true ↔
    (1 ≤ d.month ∧ d.month ≤ 12) ∧ 1 ≤ d.day ∧ d.day ≤ monthLength d.year d.month := by
  simp [Date.isValid, and_assoc]

theorem monthLength_pos (first : 1 ≤ m) (last : m ≤ 12) : 1 ≤ monthLength y m := by
  have all : ∀ leap, ∀ m < 12, 1 ≤ (monthLengths leap).getD m 0 := by decide
  exact all _ _ (by omega)

theorem monthLength_le_31 (y : Int) (m : Nat) : monthLength y m ≤ 31 := by
  have all : ∀ leap, ∀ length ∈ monthLengths leap, length ≤ 31 := by decide
  rw [monthLength, List.getD_eq_getElem?_getD]
  cases found : (monthLengths (isLeap y))[m - 1]? with
  | none => exact Nat.zero_le 31
  | some length => exact all _ _ (List.mem_of_getElem? found)

theorem monthLength_le (first : 1 ≤ d.month) (last : d.month ≤ 12) :
    monthStart d.year d.month + monthLength d.year d.month ≤ 365 + if isLeap d.year then 1 else 0 := by
  rw [← monthStart_succ first last, ← monthStart_end, monthStart_eq, monthStart_eq]
  apply (List.take_sublist_take_left (by omega)).sum_le_sum
  intro length _
  exact Nat.zero_le length

/-- The day at a place of a month is the one at that place of the year. -/
theorem monthDay_eq {j k : Nat} (inside : j < lengths.length) (short : k < lengths[j]) (m : Nat) :
    monthDay lengths m ((lengths.take j).sum + k) = (m + j, k + 1) := by
  induction lengths generalizing j m with
  | nil => cases inside
  | cons length rest ih =>
    cases j with
    | zero =>
      have early : 0 + k < length := by simpa using short
      rw [List.take_zero, List.sum_nil, monthDay, if_pos early, Nat.zero_add]
      rfl
    | succ j =>
      have late : ¬ length + (rest.take j).sum + k < length := by omega
      have left : length + (rest.take j).sum + k - length = (rest.take j).sum + k := by omega
      rw [List.take_succ_cons, List.sum_cons, monthDay, if_neg late, left,
        ih (by simpa using inside) (by simpa using short), Nat.add_assoc, Nat.add_comm 1]

theorem number_within (valid : d.isValid = true) :
    yearStart d.year ≤ d.number ∧ d.number < yearStart (d.year + 1) := by
  obtain ⟨⟨first, last⟩, positive, short⟩ := isValid_iff.mp valid
  have within := monthLength_le first last
  rw [Date.number, yearStart_succ]
  constructor
  · omega
  · split at within <;> simp_all <;> omega

/-- A date that exists is the date of its number. -/
theorem dateOf_number (valid : d.isValid = true) : dateOf d.number = d := by
  obtain ⟨⟨first, last⟩, positive, short⟩ := isValid_iff.mp valid
  have year := yearOf_eq (number_within valid).1 (number_within valid).2
  have inside : d.month - 1 < (monthLengths (isLeap d.year)).length := by
    rw [monthLengths_length]
    omega
  have bound : d.day - 1 < (monthLengths (isLeap d.year))[d.month - 1] := by
    rw [monthLength, List.getD_eq_getElem?_getD, List.getElem?_eq_getElem inside,
      Option.getD_some] at short
    omega
  have inYear : (d.number - yearStart d.year).toNat =
      ((monthLengths (isLeap d.year)).take (d.month - 1)).sum + (d.day - 1) := by
    rw [Date.number, ← monthStart_eq]
    omega
  have restored : 1 + (d.month - 1) = d.month ∧ d.day - 1 + 1 = d.day := by omega
  simp only [dateOf, year, inYear, monthDay_eq inside bound, restored]

theorem next_isValid (valid : d.isValid = true) : d.next.isValid = true := by
  obtain ⟨⟨first, last⟩, positive, short⟩ := isValid_iff.mp valid
  rw [isValid_iff]
  unfold Date.next
  split
  · dsimp only
    omega
  · split
    · rename_i before
      have next : 1 ≤ d.month + 1 ∧ d.month + 1 ≤ 12 := by omega
      exact ⟨next, Nat.le_refl 1, monthLength_pos next.1 next.2⟩
    · exact ⟨⟨Nat.le_refl 1, Nat.le_add_left 1 11⟩, Nat.le_refl 1,
        monthLength_pos (Nat.le_refl 1) (Nat.le_add_left 1 11)⟩

theorem number_next (valid : d.isValid = true) : d.next.number = d.number + 1 := by
  obtain ⟨⟨first, last⟩, positive, short⟩ := isValid_iff.mp valid
  unfold Date.next
  split
  · simp only [Date.number]
    omega
  · have whole := monthStart_succ (y := d.year) first last
    split
    · simp only [Date.number]
      omega
    · have december : d.month = 12 := by omega
      have full := monthStart_end d.year
      have january : monthStart (d.year + 1) 1 = 0 := rfl
      simp only [Date.number, january, yearStart_succ]
      rw [december] at whole short ⊢
      split at full <;> simp_all <;> omega

end Days

/-! ## Days since 1970 -/

section Dates
variable {j k : Nat} {d e f : Date}

/-- Dates in the order of year, month and day. -/
def Date.Before (d e : Date) : Prop :=
  d.year < e.year ∨ d.year = e.year ∧ (d.month < e.month ∨ d.month = e.month ∧ d.day < e.day)

theorem Date.before_next (d : Date) : d.Before d.next := by
  unfold next Before
  split
  · exact .inr ⟨rfl, .inr ⟨rfl, Nat.lt_succ_self _⟩⟩
  · split
    · exact .inr ⟨rfl, .inl (Nat.lt_succ_self _)⟩
    · exact .inl (Int.lt_succ _)

theorem Date.Before.trans (first : d.Before e) (second : e.Before f) : d.Before f := by
  unfold Before at *
  omega

theorem dayAfter_succ (k : Nat) : dayAfter (k + 1) = (dayAfter k).next :=
  Function.iterate_succ_apply' Date.next k firstDay

theorem dayAfter_isValid (k : Nat) : (dayAfter k).isValid = true := by
  induction k with
  | zero => rfl
  | succ k ih =>
    rw [dayAfter_succ]
    exact next_isValid ih

theorem number_dayAfter (k : Nat) : (dayAfter k).number = epoch + k := by
  induction k with
  | zero => rfl
  | succ k ih =>
    rw [dayAfter_succ, number_next (dayAfter_isValid k), ih]
    omega

/-- The calendar counts the days since 1970. -/
theorem dateOf_eq (k : Nat) : dateOf (k + epoch) = dayAfter k := by
  rw [add_comm, ← number_dayAfter, dateOf_number (dayAfter_isValid k)]

theorem before_dayAfter (less : j < k) : (dayAfter j).Before (dayAfter k) := by
  induction k with
  | zero => cases less
  | succ k ih =>
    have next := (dayAfter k).before_next
    rw [← dayAfter_succ] at next
    obtain less | rfl := Nat.lt_succ_iff_lt_or_eq.mp less
    · exact (ih less).trans next
    · exact next

/-- Years have four digits for thousands of years. -/
theorem dayAfter_year (soon : k < 2932897) : 1970 ≤ (dayAfter k).year ∧ (dayAfter k).year ≤ 9999 := by
  obtain ⟨after, before⟩ := number_within (dayAfter_isValid k)
  rw [number_dayAfter] at after before
  simp only [yearStart, epoch] at after before
  omega

end Dates

/-! ## All days

The calendar repeats itself after 400 years, so that a date before 1970 is that of a later day, so many
times 400 years earlier. -/

section Earlier
variable {d : Date} {n : Int}

def Date.earlier (d : Date) (k : Nat) : Date :=
  { d with year := d.year - 400 * k }

theorem isLeap_earlier (y : Int) (k : Nat) : isLeap (y - 400 * k) = isLeap y := by
  have fours : (y - 400 * k) % 4 = y % 4 := by omega
  have hundreds : (y - 400 * k) % 100 = y % 100 := by omega
  have whole : (y - 400 * k) % 400 = y % 400 := by omega
  simp only [isLeap, fours, hundreds, whole]

theorem yearStart_earlier (y : Int) (k : Nat) : yearStart (y - 400 * k) = yearStart y - 146097 * k := by
  simp only [yearStart]
  omega

theorem isValid_earlier (d : Date) (k : Nat) : (d.earlier k).isValid = d.isValid := by
  simp only [Date.isValid, Date.earlier, monthLength, isLeap_earlier]
  rfl

theorem number_earlier (d : Date) (k : Nat) : (d.earlier k).number = d.number - 146097 * k := by
  simp only [Date.number, Date.earlier, monthStart, isLeap_earlier, yearStart_earlier]
  omega

theorem exists_number (n : Int) : ∃ d : Date, d.isValid = true ∧ d.number = n := by
  let k := (epoch - n).toNat
  let later := (n + 146097 * k - epoch).toNat
  refine ⟨(dayAfter later).earlier k, ?_, ?_⟩
  · rw [isValid_earlier]
    exact dayAfter_isValid later
  · rw [number_earlier, number_dayAfter]
    omega

theorem dateOf_isValid (n : Int) : (dateOf n).isValid = true := by
  obtain ⟨d, valid, rfl⟩ := exists_number n
  rwa [dateOf_number valid]

theorem number_dateOf (n : Int) : (dateOf n).number = n := by
  obtain ⟨d, valid, rfl⟩ := exists_number n
  rw [dateOf_number valid]

end Earlier

end EventProbe.Calendar
