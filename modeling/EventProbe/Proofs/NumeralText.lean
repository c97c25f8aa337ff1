import EventProbe.Proofs.JsonRoundTrip
import EventProbe.Proofs.Utf8RoundTrip
import EventProbe.Text.Blank
import EventProbe.Text.Numeral
import Mathlib.Data.Nat.Digits.Defs

/-! The texts that are read as a number: decimal digits, of which the first may be zeros, with one plus
sign before them or none, as long as the number fits in a word. The digits in which a number is shown
are such a text. -/
namespace EventProbe.Numeral

/-- Characters write a number that fits in a word. -/
inductive Spells : List Char → Nat → Prop where
  | digits : chars ≠ [] → (∀ c ∈ chars, c.isDigit = true) → Nat.ofDigitChars 10 chars 0 < wordLimit →
      Spells chars (Nat.ofDigitChars 10 chars 0)
  | plus : chars ≠ [] → (∀ c ∈ chars, c.isDigit = true) → Nat.ofDigitChars 10 chars 0 < wordLimit →
      Spells ('+' :: chars) (Nat.ofDigitChars 10 chars 0)

theorem Spells.fits {chars : List Char} {n : Nat} (spelled : Spells chars n) : n < wordLimit := by
  cases spelled <;> assumption

section Reading
variable {chars : List Char} {c : Char} {m n : Nat}

theorem isDigit_iff : c.isDigit = true ↔ '0' ≤ c ∧ c ≤ '9' := by
  simp [Char.isDigit, Char.le_def]

theorem digit?_of_isDigit (digit : c.isDigit = true) : digit? c = some (c.toNat - 48) := by
  rw [digit?, if_pos (isDigit_iff.mp digit)]

theorem digit?_eq_none (other : c.isDigit = false) : digit? c = none := by
  rw [digit?, if_neg]
  rw [← isDigit_iff, other]
  decide

theorem not_blank_of_isDigit (digit : c.isDigit = true) : Text.isBlank c = false := by
  have digits : ∀ code < 58, 48 ≤ code → Text.isBlank (Char.ofNat code) = false := by decide
  simp only [Char.isDigit, Bool.and_eq_true, decide_eq_true_eq, UInt32.le_iff_toNat_le] at digit
  rw [← Char.ofNat_toNat c]
  exact digits c.toNat (Nat.lt_succ_of_le digit.2) digit.1

theorem digits_eq_ok_iff (small : m < wordLimit) : digits chars m = .ok n ↔
    (∀ c ∈ chars, c.isDigit = true) ∧ Nat.ofDigitChars 10 chars m = n ∧ n < wordLimit := by
  induction chars generalizing m with
  | nil =>
    have same : Nat.ofDigitChars 10 [] m = m := rfl
    simp only [digits, Except.ok.injEq, same]
    constructor
    · rintro rfl
      exact ⟨by simp, rfl, small⟩
    · exact fun spelled => spelled.2.1
  | cons c rest ih =>
    have next : 10 * m + (c.toNat - '0'.toNat) = m * 10 + (c.toNat - 48) := by
      rw [Nat.mul_comm]
      rfl
    rw [Nat.ofDigitChars_cons, next, List.forall_mem_cons]
    unfold digits
    cases digit : c.isDigit with
    | false => simp [digit?_eq_none digit]
    | true =>
      rw [digit?_of_isDigit digit]
      dsimp only
      by_cases fits : m * 10 + (c.toNat - 48) < wordLimit
      · rw [if_pos fits, ih fits]
        simp
      · -- What is too large halfway is so at the end.
        have grows := Json.le_ofDigitChars rest (m * 10 + (c.toNat - 48))
        rw [if_neg fits]
        constructor
        · intro read
          cases read
        · rintro ⟨_, rfl, short⟩
          omega

theorem digits_zero_iff : digits chars 0 = .ok n ↔ (∀ c ∈ chars, c.isDigit = true) ∧
    Nat.ofDigitChars 10 chars 0 = n ∧ n < wordLimit :=
  digits_eq_ok_iff (by decide)

theorem read_eq_ok_iff : read chars = .ok n ↔ Spells chars n := by
  constructor
  · intro found
    unfold read at found
    split at found
    · cases found
    · cases found
    · rename_i rest other
      obtain ⟨all, rfl, short⟩ := digits_zero_iff.mp found
      exact .plus (by rintro rfl; exact other rfl) all short
    · rename_i some _ _
      obtain ⟨all, rfl, short⟩ := digits_zero_iff.mp found
      exact .digits some all short
  · intro spelled
    cases spelled with
    | digits some all short =>
      unfold read
      split
      · exact absurd rfl some
      · exact absurd (all '+' (by simp)) (by decide)
      · exact absurd (all '+' (by simp)) (by decide)
      · exact digits_zero_iff.mpr ⟨all, rfl, short⟩
    | @plus chars some all short =>
      unfold read
      split
      · contradiction
      · rename_i single
        exact absurd (List.cons.inj single).2 some
      · rename_i split
        cases split
        exact digits_zero_iff.mpr ⟨all, rfl, short⟩
      · rename_i other
        exact absurd rfl (other chars)

theorem parse?_eq_some_iff {text : String} : parse? text = some n ↔ Spells text.toList n := by
  rw [← read_eq_ok_iff, parse?, parse]
  cases read text.toList <;> simp [Except.toOption]

theorem isDigit_of_mem_toDigits (shown : c ∈ Nat.toDigits 10 n) : c.isDigit = true :=
  Nat.isDigit_of_mem_toDigits (by decide) (by decide) shown

theorem spells_toDigits (fits : n < wordLimit) : Spells (Nat.toDigits 10 n) n := by
  have value : Nat.ofDigitChars 10 (Nat.toDigits 10 n) 0 = n := Nat.ofDigitChars_ten_toDigits
  have all : ∀ c ∈ Nat.toDigits 10 n, c.isDigit = true := fun _ => isDigit_of_mem_toDigits
  have spells := Spells.digits Nat.toDigits_ne_nil all (by rwa [value])
  rwa [value] at spells

theorem read_toDigits (fits : n < wordLimit) : read (Nat.toDigits 10 n) = .ok n :=
  read_eq_ok_iff.mpr (spells_toDigits fits)

theorem width_digits {chars : List Char} (all : ∀ c ∈ chars, c.isDigit = true) :
    Utf8.width chars = chars.length := by
  induction chars with
  | nil => rfl
  | cons c rest ih =>
    obtain ⟨digit, all⟩ := List.forall_mem_cons.mp all
    have single : c.utf8Size = 1 := by
      simp only [Char.isDigit, Bool.and_eq_true, decide_eq_true_eq] at digit
      exact Char.utf8Size_eq_one_iff.mpr (UInt32.le_trans digit.2 (by decide))
    rw [Utf8.width_cons, ih all, single, List.length_cons, Nat.add_comm]

/-- The digits of a number take a byte each. -/
theorem width_toDigits (n : Nat) : Utf8.width (Nat.toDigits 10 n) = (Nat.toDigits 10 n).length :=
  width_digits fun _ => isDigit_of_mem_toDigits

/-- A number that fits in a word has at most twenty digits. -/
theorem length_toDigits_le (fits : n < wordLimit) : (Nat.toDigits 10 n).length ≤ 20 :=
  Nat.toDigits_length 10 n 20 (by decide) (Nat.lt_trans fits (by decide))

end Reading

end EventProbe.Numeral
