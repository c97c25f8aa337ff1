import EventProbe.Plugins.Bundled
import EventProbe.Proofs.HeldPlugins
import EventProbe.Proofs.KeyedTokens
import EventProbe.Proofs.NumeralText

/-! Fields that show a number where event data has its digits. Bundled plugins generate data with a
number in it; what they and the general fields read from there is the number, with its place. -/
namespace EventProbe

namespace Numeral
variable {n start : Nat}

theorem toList_toString (n : Nat) : (toString n).toList = Nat.toDigits 10 n := by
  rw [Nat.toString_eq_repr, Nat.toList_repr]

theorem ofList_toDigits (n : Nat) : String.ofList (Nat.toDigits 10 n) = toString n := by
  rw [← toList_toString, String.ofList_toList]

theorem length_toString (n : Nat) : (toString n).length = (Nat.toDigits 10 n).length := by
  rw [← String.length_toList, toList_toString]

/-- The place of the digits of a number that begins near the start is not cut down. -/
theorem clamped_toDigits (fits : n < wordLimit) (near : start ≤ 5) :
    Range.clamped start (Nat.toDigits 10 n).length = ⟨start, (toString n).length⟩ := by
  have short := length_toDigits_le fits
  rw [length_toString]
  have small : 25 < halfWordLimit := by decide
  exact Range.clamped_eq small (by omega)

theorem ne_of_mem_toDigits {c : Char} (shown : c ∈ Nat.toDigits 10 n) : c ≠ ' ' := by
  rintro rfl
  exact absurd (isDigit_of_mem_toDigits shown) (by decide)

end Numeral

/-- The text of an event of a countdown, after which so many remain. -/
theorem Countdown.toList_event (n : Nat) :
    (s!"{n} events remaining").toList = Nat.toDigits 10 n ++ ' ' :: "events remaining".toList := by
  rw [String.toList_append, Numeral.toList_toString]
  rfl

section Payload
variable {n : Nat} {rest : List Char} {payload : String}

open Numeral

/-- The number at the start of a payload. -/
theorem Payload.leadingNumber_digits (fits : n < wordLimit)
    (text : payload.toList = Nat.toDigits 10 n ++ ' ' :: rest) :
    leadingNumber payload = .ok [⟨.number n, some ⟨0, (toString n).length⟩⟩] := by
  have digits : payload.toList.takeWhile (fun c => (digit? c).isSome) = Nat.toDigits 10 n := by
    have all : ∀ c ∈ Nat.toDigits 10 n, (digit? c).isSome = true := by
      intro c shown
      rw [digit?_of_isDigit (isDigit_of_mem_toDigits shown)]
      rfl
    rw [text, List.takeWhile_append_of_pos all, List.takeWhile_cons_of_neg (by decide), List.append_nil]
  have some : (Nat.toDigits 10 n).isEmpty = false := List.isEmpty_eq_false_iff.mpr Nat.toDigits_ne_nil
  simp only [leadingNumber, digits, some, Bool.false_eq_true, if_false, read_toDigits fits,
    Extracted.located, clamped_toDigits fits (Nat.zero_le 5)]

/-- The first word of a payload that starts with a number. -/
theorem Payload.nthWord_digits (n : Nat) (rest : List Char) :
    nthWord ((Nat.toDigits 10 n ++ ' ' :: rest).splitOn ' ') 0 0 = some (0, Nat.toDigits 10 n) := by
  have dark : ∀ c ∈ Nat.toDigits 10 n, (c == ' ') = false := by
    intro c shown
    exact beq_eq_false_iff_ne.mpr (ne_of_mem_toDigits shown)
  have some : (Nat.toDigits 10 n).isEmpty = false := List.isEmpty_eq_false_iff.mpr Nat.toDigits_ne_nil
  rw [List.splitOn, List.splitOnP_append_cons_of_forall_mem dark ' ' (beq_self_eq_true _), nthWord, some]
  rfl

variable [Plugin ρ κ] {r : Request} {s : Payload}

theorem Payload.extract_text (data : r.event.data = Utf8.encode payload) :
    (Plugin.extract (.inl (.inr (.inl s)) : Bundled ⊕ ρ) r).1 = values r payload := by
  simp only [Plugin.extract, data, Utf8.decode_encode]

theorem Payload.extract_remaining (fits : n < wordLimit) (name : r.field.name = "payload.remaining")
    (data : r.event.data = Utf8.encode s!"{n} events remaining") :
    (Plugin.extract (.inl (.inr (.inl s)) : Bundled ⊕ ρ) r).1 =
      .ok [⟨.number n, some ⟨0, (toString n).length⟩⟩] := by
  rw [extract_text data]
  simp only [values, name]
  exact leadingNumber_digits fits (Countdown.toList_event n)

theorem Payload.extract_word (fits : n < wordLimit) (name : r.field.name = "payload.word")
    (index : r.argIndex = some 0) (data : r.event.data = Utf8.encode s!"{n} events remaining") :
    (Plugin.extract (.inl (.inr (.inl s)) : Bundled ⊕ ρ) r).1 =
      .ok [⟨.text (toString n), some ⟨0, (toString n).length⟩⟩] := by
  rw [extract_text data]
  simp only [values, name, index, Option.getD_some, Countdown.toList_event, nthWord_digits,
    Extracted.located, width_toDigits, clamped_toDigits fits (Nat.zero_le 5), ofList_toDigits]

end Payload

section TestSource
variable {n : Nat}

open Numeral

theorem TestSource.toList_event (n : Nat) :
    (s!"tick={n}").toList = "tick=".toList ++ Nat.toDigits 10 n := by
  rw [String.toList_append, toList_toString]
  rfl

/-- The number of a tick is read back from its event. -/
theorem TestSource.tick_event (fits : n < wordLimit) : tick (Utf8.encode s!"tick={n}") =
    .ok [⟨.number n, some ⟨5, (toString n).length⟩⟩] := by
  have stripped : label.isPrefixOf? (s!"tick={n}").toList = some (Nat.toDigits 10 n) :=
    List.isPrefixOf?_eq_some_iff_append_eq.mpr (toList_event n).symm
  have length : label.length = 5 := rfl
  simp only [tick, Utf8.decode_encode, stripped, read_toDigits fits, Extracted.located, width_toDigits,
    length, clamped_toDigits fits (Nat.le_refl 5)]

theorem TestSource.extract_event [Plugin ρ κ] {r : Request} {s : TestSource} (fits : n < wordLimit)
    (data : r.event.data = Utf8.encode s!"tick={n}") :
    (Plugin.extract (.inl (.inr (.inr (.inr (.inl s)))) : Bundled ⊕ ρ) r).1 =
      .ok [⟨.number n, some ⟨5, (toString n).length⟩⟩] := by
  simp only [Plugin.extract, data, tick_event fits]

theorem TestSource.findArgument_event (n : Nat) : findArgument (Utf8.encode s!"tick={n}") "tick" =
    some (5, Nat.toDigits 10 n) := by
  have dark : ' ' ∉ "tick=".toList ++ Nat.toDigits 10 n := by
    rw [List.mem_append, not_or]
    exact ⟨by decide, fun shown => ne_of_mem_toDigits shown rfl⟩
  rw [findArgument_eq_some_iff]
  refine ⟨_, [], [], rfl, ⟨?_, List.forall_mem_nil _⟩, rfl⟩
  rw [toList_event]
  exact .last dark

end TestSource

end EventProbe
