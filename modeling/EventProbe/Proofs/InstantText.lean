import EventProbe.Proofs.CalendarDays
import EventProbe.Proofs.PaddedNumerals
import EventProbe.Time.Read
import Mathlib.Data.List.TakeWhile

/-! Instants read back from their texts. Every instant there is has a text from which it is read, part by
part: also in the years before the first and after 9999, which are written with a sign, and in a leap
second, which is written as the sixtieth of its minute. Nothing else is ever read. -/
namespace EventProbe.Instant

open Numeral

/-! ## Parts -/

section Parts
variable {chars rest : List Char} {c : Char} {width most n low high : Nat}

theorem head_digits (written : Digits width n chars) (some : 0 < width) :
    ∃ c rest, chars = c :: rest ∧ c.isDigit = true := by
  cases chars with
  | nil =>
    rw [← written.length] at some
    cases some
  | cons c rest => exact ⟨c, rest, rfl, written.digits c List.mem_cons_self⟩

theorem trimStart_cons (dark : Text.isBlank c = false) (rest : List Char) :
    Text.trimStart (c :: rest) = c :: rest := by
  rw [Text.trimStart, List.dropWhile_cons, dark]
  rfl

theorem trimStart_digits (written : Digits width n chars) (some : 0 < width) (rest : List Char) :
    Text.trimStart (chars ++ rest) = chars ++ rest := by
  obtain ⟨c, more, rfl, digit⟩ := head_digits written some
  exact trimStart_cons (not_blank_of_isDigit digit) _

theorem foldl_digits (chars : List Char) :
    chars.foldl (fun n c => n * 10 + (c.toNat - 48)) 0 = Nat.ofDigitChars 10 chars 0 := by
  rw [Nat.ofDigitChars]
  simp only [Nat.mul_comm]
  rfl

/-- Digits are read as far as they may go, or up to the character that ends them. -/
theorem digitsUpTo_digits (written : Digits width n chars) (some : 0 < width) (within : width ≤ most)
    (ends : width < most → ∃ c more, rest = c :: more ∧ c.isDigit = false) :
    digitsUpTo most (chars ++ rest) = .ok (n, rest) := by
  have all : ∀ d ∈ chars, (digit? d).isSome = true := by
    intro d shown
    rw [digit?_of_isDigit (written.digits d shown)]
    rfl
  have stops : (rest.take (most - width)).takeWhile (fun d => (digit? d).isSome) = [] := by
    obtain rfl | less := Nat.eq_or_lt_of_le within
    · rw [Nat.sub_self, List.take_zero, List.takeWhile_nil]
    · obtain ⟨c, more, rfl, other⟩ := ends less
      obtain ⟨extra, same⟩ := Nat.exists_eq_add_one_of_ne_zero (Nat.sub_ne_zero_of_lt less)
      rw [same, List.take_succ_cons, List.takeWhile_cons_of_neg]
      simp [digit?_eq_none other]
  have taken : ((chars ++ rest).take most).takeWhile (fun d => (digit? d).isSome) = chars := by
    rw [List.take_append, written.length, List.take_of_length_le (written.length ▸ within),
      List.takeWhile_append_of_pos all, stops, List.append_nil]
  obtain ⟨c, more, rfl, _⟩ := head_digits written some
  rw [List.cons_append] at taken ⊢
  simp only [digitsUpTo, taken, foldl_digits, written.value]
  rw [← List.cons_append, List.drop_left]
  rfl

theorem ranged_digits (written : Digits 2 n chars) (within : low ≤ n ∧ n ≤ high) (rest : List Char) :
    ranged 2 low high (chars ++ rest) = .ok (n, rest) := by
  unfold ranged
  rw [trimStart_digits written (by decide),
    digitsUpTo_digits written (by decide) (Nat.le_refl 2) (absurd · (Nat.lt_irrefl 2))]
  exact if_pos within

theorem separator_cons (dark : Text.isBlank c = false) (rest : List Char) :
    separator c (c :: rest) = .ok rest := by
  unfold separator
  rw [trimStart_cons dark]
  exact if_pos rfl

theorem betweenDateAndTime_t (rest : List Char) : betweenDateAndTime ('T' :: rest) = .ok rest := by
  rw [betweenDateAndTime]
  exact if_pos (.inr (.inl rfl))

theorem offset_z (rest : List Char) : offset ('Z' :: rest) = .ok (0, rest) := by
  unfold offset
  rw [trimStart_cons (by decide)]
  rfl

/-- A year of four digits, or the digits of a year behind its sign, up to the dash. -/
theorem year_digits (written : Digits width n chars) (rest : List Char) :
    (width = 4 → year (chars ++ '-' :: rest) = .ok ((n : Int), '-' :: rest)) ∧
    (0 < width → n < 2147483648 →
      year ('-' :: (chars ++ '-' :: rest)) = .ok (-(n : Int), '-' :: rest) ∧
      year ('+' :: (chars ++ '-' :: rest)) = .ok ((n : Int), '-' :: rest)) := by
  constructor
  · rintro rfl
    have read : digitsUpTo 4 (chars ++ '-' :: rest) = .ok (n, '-' :: rest) :=
      digitsUpTo_digits written (by decide) (Nat.le_refl 4) (absurd · (Nat.lt_irrefl 4))
    unfold year
    rw [trimStart_digits written (by decide)]
    obtain ⟨c, more, rfl, digit⟩ := head_digits written (by decide)
    split
    · rename_i same
      cases same
      cases digit
    · rename_i same
      cases same
      cases digit
    · rw [read]
      rfl
  · intro some small
    have within : width ≤ (chars ++ '-' :: rest).length := by
      rw [List.length_append, written.length]
      exact Nat.le_add_right _ _
    have read := digitsUpTo_digits written some within fun _ => ⟨'-', rest, rfl, by decide⟩
    constructor
    · unfold year
      rw [trimStart_cons (by decide)]
      simp only [read]
      exact if_pos (by simp only [if_true]; omega)
    · unfold year
      rw [trimStart_cons (by decide)]
      simp only [read]
      exact if_pos (by simp only [Bool.false_eq_true, if_false]; omega)

theorem year_yearText {y : Int} (fits : y.natAbs < 2147483648) (rest : List Char) :
    year ((yearText y).toList ++ '-' :: rest) = .ok (y, '-' :: rest) := by
  unfold yearText
  split
  · have small : y.toNat < 10 ^ 4 := by omega
    rw [(year_digits (digits_padded_of_lt (by decide) small) rest).1 rfl]
    have same : ((y.toNat : Nat) : Int) = y := by omega
    rw [same]
  · obtain ⟨minus, plus⟩ := (year_digits (digits_padded 4 y.natAbs) rest).2 (by omega) fits
    rw [String.toList_append]
    split
    · have same : -((y.natAbs : Nat) : Int) = y := by omega
      rw [same] at minus
      exact minus
    · have same : ((y.natAbs : Nat) : Int) = y := by omega
      rw [same] at plus
      exact plus

theorem fraction_digits (written : Digits width n chars) (some : 0 < width) (within : width ≤ 9)
    (rest : List Char) :
    fraction ('.' :: (chars ++ 'Z' :: rest)) = .ok (n * 10 ^ (9 - width), 'Z' :: rest) := by
  have read := digitsUpTo_digits written some within fun _ => ⟨'Z', rest, rfl, by decide⟩
  have count : (chars ++ 'Z' :: rest).length - ('Z' :: rest).length = width := by
    rw [List.length_append, Nat.add_sub_cancel, written.length]
  simp only [fraction, read, count]
  rfl

theorem fraction_fractionText (f : Fraction) {nano : Nat} (small : nano < nanosPerSecond)
    (rest : List Char) :
    fraction ((fractionText f nano).toList ++ 'Z' :: rest) = .ok (nano, 'Z' :: rest) := by
  have point (width n : Nat) (some : 0 < width) (within : width ≤ 9) (fits : n < 10 ^ width) :
      fraction (("." ++ padded width n).toList ++ 'Z' :: rest) =
        .ok (n * 10 ^ (9 - width), 'Z' :: rest) := by
    rw [String.toList_append]
    exact fraction_digits (digits_padded_of_lt some fits) some within rest
  rw [nanosPerSecond] at small
  have all := point 9 nano (by decide) (Nat.le_refl 9) small
  cases f with
  | nanos => rw [fractionText, all, Nat.sub_self, Nat.pow_zero, Nat.mul_one]
  | shortest =>
    unfold fractionText
    dsimp only
    split
    · rename_i none
      rw [none]
      rfl
    · split
      · have whole : nano / 1000000 * 10 ^ (9 - 3) = nano := by omega
        rw [point 3 (nano / 1000000) (by decide) (by decide) (by omega), whole]
      · split
        · have whole : nano / 1000 * 10 ^ (9 - 6) = nano := by omega
          rw [point 6 (nano / 1000) (by decide) (by decide) (by omega), whole]
        · rw [all, Nat.sub_self, Nat.pow_zero, Nat.mul_one]

end Parts

/-! ## Whole texts -/

/-- There is such an instant: its year is one that dates may have, and only the last second of a minute
is followed by a leap second. -/
def Exists (t : Instant) : Prop :=
  ofTimestamp? t.second t.nano = some t

/-- The parts of an instant as it is written. -/
def parts (t : Instant) : Fields :=
  let inDay := (t.second % 86400).toNat
  let leap := nanosPerSecond ≤ t.nano
  ⟨Calendar.dateOf (t.second / 86400 + Calendar.epoch), inDay / 3600, inDay / 60 % 60,
    inDay % 60 + if leap then 1 else 0, if leap then t.nano - nanosPerSecond else t.nano, 0⟩

section Texts
variable {t : Instant}

theorem exists_of_ofTimestamp {second : Int} {nano : Nat} (found : ofTimestamp? second nano = some t) :
    t.Exists := by
  obtain rfl : ⟨second, nano⟩ = t := by
    unfold ofTimestamp? at found
    dsimp only at found
    split at found
    · exact Option.some.inj found
    · cases found
  exact found

theorem exists_iff : t.Exists ↔
    -262143 ≤ t.parts.date.year ∧ t.parts.date.year ≤ 262142 ∧
      (t.nano < nanosPerSecond ∨ t.nano < 2 * nanosPerSecond ∧ t.second % 60 = 59) := by
  unfold Exists ofTimestamp?
  dsimp only [Calendar.yearRange]
  split
  · exact iff_of_true rfl ‹_›
  · exact iff_of_false nofun ‹_›

theorem Exists.nano_lt (there : t.Exists) : t.parts.nano < nanosPerSecond := by
  obtain ⟨_, _, small⟩ := exists_iff.mp there
  by_cases leap : nanosPerSecond ≤ t.nano
  · simp only [parts, leap, if_true]
    omega
  · simp only [parts, leap, if_false]
    omega

theorem toList_text (t : Instant) (f : Fraction) : (t.text f).toList =
    (yearText t.parts.date.year).toList ++ '-' :: ((padded 2 t.parts.date.month).toList ++ '-' ::
      ((padded 2 t.parts.date.day).toList ++ 'T' :: ((padded 2 t.parts.hour).toList ++ ':' ::
        ((padded 2 t.parts.minute).toList ++ ':' :: ((padded 2 t.parts.second).toList ++
          ((fractionText f t.parts.nano).toList ++ ['Z'])))))) := by
  have marks : "-".toList = ['-'] ∧ "T".toList = ['T'] ∧ ":".toList = [':'] ∧ "Z".toList = ['Z'] := by
    decide
  simp only [text, parts, String.toList_append, marks, List.append_assoc, List.cons_append,
    List.nil_append]

theorem parts_within (t : Instant) : (1 ≤ t.parts.date.month ∧ t.parts.date.month ≤ 12) ∧
    (1 ≤ t.parts.date.day ∧ t.parts.date.day ≤ 31) ∧ t.parts.hour ≤ 23 ∧ t.parts.minute ≤ 59 ∧
      t.parts.second ≤ 60 := by
  obtain ⟨month, positive, short⟩ := Calendar.isValid_iff.mp
    (Calendar.dateOf_isValid (t.second / 86400 + Calendar.epoch))
  have inDay : (t.second % 86400).toNat < 86400 := by omega
  refine ⟨month, ⟨positive, short.trans (Calendar.monthLength_le_31 _ _)⟩, ?_, ?_, ?_⟩
  · simp only [parts]
    omega
  · simp only [parts]
    omega
  · simp only [parts]
    split <;> omega

/-- The parts of an instant are read from its text. -/
theorem fields_text (there : t.Exists) (f : Fraction) :
    fields (t.text f).toList = .ok (t.parts, []) := by
  obtain ⟨first, last, _⟩ := exists_iff.mp there
  obtain ⟨month, day, hour, minute, second⟩ := t.parts_within
  have small := there.nano_lt
  have zone : t.parts.offset = 0 := rfl
  rw [toList_text]
  generalize t.parts = p at *
  obtain ⟨⟨y, mo, d⟩, h, mi, s, nano, _⟩ := p
  cases zone
  dsimp only at *
  have two {n high : Nat} (within : n ≤ high) (small : high < 10 ^ 2) :
      Digits 2 n (padded 2 n).toList :=
    digits_padded_of_lt (by decide) (Nat.lt_of_le_of_lt within small)
  have dash : Text.isBlank '-' = false := by decide
  have colon : Text.isBlank ':' = false := by decide
  simp only [fields, dateFields, bind, Except.bind, pure, Except.pure,
    year_yearText (y := y) (by omega), separator_cons dash, separator_cons colon,
    ranged_digits (two month.2 (by decide)) month, ranged_digits (two day.2 (by decide)) day,
    betweenDateAndTime_t, ranged_digits (two hour (by decide)) ⟨Nat.zero_le _, hour⟩,
    ranged_digits (two minute (by decide)) ⟨Nat.zero_le _, minute⟩,
    ranged_digits (two second (by decide)) ⟨Nat.zero_le _, second⟩,
    fraction_fractionText f small, offset_z]
  rfl

/-- The sixtieth second of a minute stands for a leap second only. -/
theorem Exists.second_eq_sixty_iff (there : t.Exists) :
    t.parts.second = 60 ↔ nanosPerSecond ≤ t.nano := by
  obtain ⟨_, _, small⟩ := exists_iff.mp there
  by_cases leap : nanosPerSecond ≤ t.nano
  · simp only [parts, leap, if_true, iff_true]
    omega
  · simp only [parts, leap, if_false, iff_false]
    omega

/-- The parts of an instant are put together to it again. -/
theorem instant_parts (there : t.Exists) : t.parts.instant = .ok t := by
  obtain ⟨first, last, _⟩ := exists_iff.mp there
  have sixty := there.second_eq_sixty_iff
  have valid : t.parts.date.isValid = true := Calendar.dateOf_isValid _
  have number : t.parts.date.number = t.second / 86400 + Calendar.epoch := Calendar.number_dateOf _
  have nano : (if t.parts.second = 60 then t.parts.nano + nanosPerSecond else t.parts.nano) = t.nano := by
    by_cases leap : nanosPerSecond ≤ t.nano
    · rw [if_pos (sixty.mpr leap)]
      simp only [parts, leap, if_true]
      omega
    · rw [if_neg (mt sixty.mp leap)]
      simp only [parts, leap, if_false]
  have place : (if t.parts.second = 60 then 59 else t.parts.second) = (t.second % 86400).toNat % 60 := by
    by_cases leap : nanosPerSecond ≤ t.nano
    · have whole := sixty.mpr leap
      rw [if_pos whole]
      simp only [parts, leap, if_true] at whole
      omega
    · rw [if_neg (mt sixty.mp leap)]
      simp only [parts, leap, if_false, Nat.add_zero]
  have second : (t.parts.date.number - Calendar.epoch) * 86400 + t.parts.hour * 3600 +
      t.parts.minute * 60 + (if t.parts.second = 60 then 59 else t.parts.second : Nat) -
        t.parts.offset = t.second := by
    rw [place, number]
    simp only [parts]
    omega
  have year : (Calendar.dateOf (t.second / 86400 + Calendar.epoch)).year = t.parts.date.year := rfl
  have early : ¬ t.parts.date.year < -262143 := by omega
  have late : ¬ 262142 < t.parts.date.year := by omega
  have near : ¬ 86400 ≤ t.parts.offset.natAbs := Nat.not_le.mpr (by decide : (0 : Int).natAbs < 86400)
  simp only [Fields.instant, Calendar.yearRange, valid, second, nano, year, early, late, near,
    Bool.not_true, decide_false, Bool.or_self, Bool.false_eq_true, or_self, if_false]

/-- An instant is read back from its text. -/
theorem Exists.read_text (there : t.Exists) (f : Fraction) : read (t.text f) = .ok t := by
  rw [read, fields_text there f]
  exact instant_parts there

end Texts

/-! ## What is read

A fraction is less than a second and an offset is made of whole minutes, so that what is read as a whole
is an instant that there is. -/

section Readings
variable {chars rest : List Char} {most n : Nat} {minus : Bool} {s : Int} {p : Fields} {t : Instant}

theorem digitsUpTo_eq_ok (read : digitsUpTo most chars = .ok (n, rest)) :
    ∃ width digits, chars = digits ++ rest ∧ Digits width n digits ∧ width ≤ most := by
  cases chars with
  | nil => cases read
  | cons c more =>
    simp only [digitsUpTo] at read
    have starts := List.takeWhile_prefix (l := (c :: more).take most) fun c => (digit? c).isSome
    have all : ∀ d ∈ ((c :: more).take most).takeWhile (fun c => (digit? c).isSome),
        d.isDigit = true := by
      intro d inside
      by_contra other
      have digit := List.mem_takeWhile_imp inside
      rw [digit?_eq_none (Bool.not_eq_true _ ▸ other)] at digit
      cases digit
    generalize ((c :: more).take most).takeWhile (fun c => (digit? c).isSome) = digits at *
    split at read
    · cases read
    · cases read
      obtain ⟨tail, split⟩ := starts.trans (List.take_prefix most (c :: more))
      refine ⟨digits.length, digits, ?_, ⟨rfl, all, (foldl_digits digits).symm⟩, ?_⟩
      · rw [← split, List.drop_left]
      · exact starts.length_le.trans (List.length_take_le _ _)

theorem fraction_lt (read : fraction chars = .ok (n, rest)) : n < nanosPerSecond := by
  unfold fraction at read
  split at read
  · split at read
    · cases read
    · rename_i m left taken
      cases read
      obtain ⟨width, digits, rfl, written, few⟩ := digitsUpTo_eq_ok taken
      have count : (digits ++ left).length - left.length = width := by
        rw [List.length_append, Nat.add_sub_cancel, written.length]
      calc m * 10 ^ (9 - ((digits ++ left).length - left.length))
          = m * 10 ^ (9 - width) := by rw [count]
        _ < 10 ^ width * 10 ^ (9 - width) :=
          Nat.mul_lt_mul_of_pos_right written.lt (Nat.pow_pos (by decide))
        _ = nanosPerSecond := by rw [← Nat.pow_add, Nat.add_sub_cancel' few]; rfl
  · cases read
    decide

theorem signedOffset_minutes (read : signedOffset minus chars = .ok (s, rest)) : s % 60 = 0 := by
  unfold signedOffset at read
  split at read
  · cases read
  · split at read
    · cases read
    · split at read
      · cases read
      · cases read
        split <;> omega

/-- Offsets are whole minutes. -/
theorem offset_minutes (read : offset chars = .ok (s, rest)) : s % 60 = 0 := by
  unfold offset at read
  split at read
  · cases read
  · cases read
    rfl
  · cases read
    rfl
  · exact signedOffset_minutes read
  · exact signedOffset_minutes read
  · exact signedOffset_minutes read
  · split at read
    · cases read
      rfl
    · cases read
  · cases read

theorem bind_eq_ok {x : Except ε α} {f : α → Except ε β} {b : β} (made : (x >>= f) = .ok b) :
    ∃ a, x = .ok a ∧ f a = .ok b := by
  cases x with
  | error => cases made
  | ok a => exact ⟨a, rfl, made⟩

theorem ite_eq_ok {q : Prop} [Decidable q] {f : ε} {a b : α}
    (made : (if q then .error f else .ok a : Except ε α) = .ok b) : ¬ q ∧ a = b := by
  split at made
  · cases made
  · exact ⟨‹_›, Except.ok.inj made⟩

theorem fields_within (read : fields chars = .ok (p, rest)) :
    p.nano < nanosPerSecond ∧ p.offset % 60 = 0 := by
  obtain ⟨_, _, read⟩ := bind_eq_ok read
  obtain ⟨_, _, read⟩ := bind_eq_ok read
  obtain ⟨_, _, read⟩ := bind_eq_ok read
  obtain ⟨_, _, read⟩ := bind_eq_ok read
  obtain ⟨_, _, read⟩ := bind_eq_ok read
  obtain ⟨_, _, read⟩ := bind_eq_ok read
  obtain ⟨_, _, read⟩ := bind_eq_ok read
  obtain ⟨_, nano, read⟩ := bind_eq_ok read
  obtain ⟨_, offset, read⟩ := bind_eq_ok read
  cases read
  exact ⟨fraction_lt nano, offset_minutes offset⟩

theorem Fields.instant_exists (nano : p.nano < nanosPerSecond) (offset : p.offset % 60 = 0)
    (made : p.instant = .ok t) : t.Exists := by
  unfold Fields.instant at made
  dsimp only [Calendar.yearRange] at made
  split at made
  · cases made
  · split at made
    · cases made
    · obtain ⟨year, rfl⟩ := ite_eq_ok made
      rw [exists_iff]
      refine ⟨not_lt.mp fun early => year (.inl early), not_lt.mp fun late => year (.inr late), ?_⟩
      dsimp only
      split
      · right
        omega
      · exact .inl nano

theorem exists_of_read {text : String} (made : read text = .ok t) : t.Exists := by
  unfold Instant.read at made
  split at made
  · cases made
  · rename_i found
    obtain ⟨nano, offset⟩ := fields_within found
    split at made
    · exact Fields.instant_exists nano offset made
    · cases made

/-- Exactly the instants that there are can be read back from their texts. -/
theorem read_text_eq_ok_iff (f : Fraction) : read (t.text f) = .ok t ↔ t.Exists := by
  constructor
  · exact exists_of_read
  · exact fun there => there.read_text f

end Readings

end EventProbe.Instant
