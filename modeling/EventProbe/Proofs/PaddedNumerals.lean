import EventProbe.Proofs.NumeralText
import Mathlib.Data.String.Basic

/-! Numerals padded with zeros to a width. Where the number fits in the width they are its last digits,
and then they are ordered as the numbers are. -/
namespace EventProbe

namespace Numeral

/-- Exactly so many decimal digits, which write a number. -/
structure Digits (width n : Nat) (chars : List Char) : Prop where
  length : chars.length = width
  digits : ∀ c ∈ chars, c.isDigit = true
  value : Nat.ofDigitChars 10 chars 0 = n

def lastDigits : Nat → Nat → List Char
  | 0, _ => []
  | width + 1, n => lastDigits width (n / 10) ++ [Nat.digitChar (n % 10)]

section Widths
variable {width m n : Nat}

theorem ofDigitChars_lt {chars : List Char} (digits : ∀ c ∈ chars, c.isDigit = true) (a : Nat) :
    Nat.ofDigitChars 10 chars a < (a + 1) * 10 ^ chars.length := by
  induction chars generalizing a with
  | nil => simp
  | cons c rest ih =>
    obtain ⟨digit, digits⟩ := List.forall_mem_cons.mp digits
    have last : c.toNat ≤ 57 := (isDigit_iff.mp digit).2
    have next : 10 * a + (c.toNat - '0'.toNat) + 1 ≤ (a + 1) * 10 := by
      have zero : '0'.toNat = 48 := rfl
      omega
    calc Nat.ofDigitChars 10 (c :: rest) a
        < (10 * a + (c.toNat - '0'.toNat) + 1) * 10 ^ rest.length := ih digits _
      _ ≤ (a + 1) * 10 * 10 ^ rest.length := Nat.mul_le_mul_right _ next
      _ = (a + 1) * 10 ^ (rest.length + 1) := by rw [Nat.pow_succ', Nat.mul_assoc]

theorem Digits.lt {chars : List Char} (written : Digits width n chars) : n < 10 ^ width := by
  have small := ofDigitChars_lt written.digits 0
  rwa [written.value, written.length, Nat.zero_add, Nat.one_mul] at small

theorem digits_lastDigits (fits : n < 10 ^ width) : Digits width n (lastDigits width n) := by
  induction width generalizing n with
  | zero =>
    obtain rfl : n = 0 := by simpa using fits
    exact ⟨rfl, by simp [lastDigits], rfl⟩
  | succ width ih =>
    have last : n % 10 < 10 := Nat.mod_lt n (by decide)
    obtain ⟨length, digits, value⟩ := ih (n := n / 10) (by rw [Nat.pow_succ] at fits; omega)
    refine ⟨?_, ?_, ?_⟩
    · rw [lastDigits, List.length_append, length, List.length_singleton]
    · intro c shown
      obtain before | own := List.mem_append.mp shown
      · exact digits c before
      · rw [List.mem_singleton.mp own]
        have digit : ∀ d < 10, (Nat.digitChar d).isDigit = true := by decide
        exact digit _ last
    · have worth : (Nat.digitChar (n % 10)).toNat - '0'.toNat = n % 10 := by
        rw [Nat.toNat_digitChar_of_lt_ten last]
        exact Nat.add_sub_cancel_left 48 _
      rw [lastDigits, Nat.ofDigitChars_append, value, Nat.ofDigitChars_cons, worth]
      exact Nat.div_add_mod n 10

theorem lastDigits_zero (width : Nat) : lastDigits width 0 = List.replicate width '0' := by
  induction width with
  | zero => rfl
  | succ width ih =>
    rw [lastDigits, Nat.zero_div, ih, List.replicate_succ']
    rfl

theorem toList_padded (positive : 0 < width) (fits : n < 10 ^ width) :
    (padded width n).toList = lastDigits width n := by
  rw [padded, String.toList_ofList]
  obtain ⟨width, rfl⟩ := Nat.exists_eq_add_one.mpr positive
  induction width generalizing n with
  | zero =>
    have digit : n < 10 := by simpa using fits
    rw [Nat.toDigits_of_lt_base digit, lastDigits, Nat.mod_eq_of_lt digit]
    rfl
  | succ width ih =>
    by_cases digit : n < 10
    · rw [Nat.toDigits_of_lt_base digit, lastDigits, Nat.mod_eq_of_lt digit, Nat.div_eq_of_lt digit,
        lastDigits_zero]
      rfl
    · have left : n / 10 < 10 ^ (width + 1) := by
        rw [Nat.pow_succ] at fits
        omega
      rw [Nat.toDigits_of_base_le (by decide) (by omega), lastDigits, ← ih (Nat.succ_pos width) left,
        List.length_append, List.length_singleton, Nat.add_sub_add_right, List.append_assoc]

theorem append_lt_append [LT α] {a b : List α} (same : a.length = b.length) (less : a < b)
    (c d : List α) : a ++ c < b ++ d := by
  induction a generalizing b with
  | nil =>
    obtain rfl := List.length_eq_zero_iff.mp same.symm
    exact absurd less (List.not_lt_nil _)
  | cons x a ih =>
    obtain _ | ⟨y, b⟩ := b
    · cases same
    · rw [List.cons_append, List.cons_append, List.cons_lt_cons_iff]
      obtain head | ⟨rfl, tail⟩ := List.cons_lt_cons_iff.mp less
      · exact .inl head
      · exact .inr ⟨rfl, ih (Nat.succ.inj same) tail⟩

/-- Digits of one width are ordered as their numbers are. -/
theorem lastDigits_lt (less : m < n) (fits : n < 10 ^ width) : lastDigits width m < lastDigits width n := by
  induction width generalizing m n with
  | zero =>
    rw [Nat.pow_zero] at fits
    omega
  | succ width ih =>
    have short : n / 10 < 10 ^ width := by
      rw [Nat.pow_succ] at fits
      omega
    rw [lastDigits, lastDigits]
    by_cases head : m / 10 < n / 10
    · apply append_lt_append _ (ih head short)
      rw [(digits_lastDigits short).length, (digits_lastDigits (Nat.lt_trans head short)).length]
    · have same : m / 10 = n / 10 := by omega
      have digits : ∀ a < 10, ∀ b < 10, a < b → Nat.digitChar a < Nat.digitChar b := by decide
      rw [same]
      apply List.append_left_lt
      rw [List.cons_lt_cons_iff]
      exact .inl (digits _ (by omega) _ (by omega) (by omega))

/-- A number that does not fit in the width is written with all its digits. -/
theorem digits_padded (width n : Nat) :
    Digits (max width (Nat.toDigits 10 n).length) n (padded width n).toList := by
  rw [padded, String.toList_ofList]
  generalize extra : width - (Nat.toDigits 10 n).length = zeros
  refine ⟨?_, ?_, ?_⟩
  · rw [List.length_append, List.length_replicate]
    omega
  · intro c shown
    obtain zero | digit := List.mem_append.mp shown
    · rw [List.eq_of_mem_replicate zero]
      rfl
    · exact isDigit_of_mem_toDigits digit
  · have nothing : ∀ zeros, Nat.ofDigitChars 10 (List.replicate zeros '0') 0 = 0 := by
      intro zeros
      induction zeros with
      | zero => rfl
      | succ zeros ih =>
        rw [List.replicate_succ, Nat.ofDigitChars_cons]
        exact ih
    rw [Nat.ofDigitChars_append, nothing, Nat.ofDigitChars_ten_toDigits]

/-- A number that fits in the width is written in it. -/
theorem digits_padded_of_lt (positive : 0 < width) (fits : n < 10 ^ width) :
    Digits width n (padded width n).toList := by
  rw [toList_padded positive fits]
  exact digits_lastDigits fits

end Widths

end Numeral

end EventProbe
