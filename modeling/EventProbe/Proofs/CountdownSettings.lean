import EventProbe.Plugins.Countdown
import EventProbe.Proofs.JsonRoundTrip

/-! The configurations of a countdown. What every member of a record keeps of the draft holds of the
draft that the record is made of, so each accepted configuration sets numbers that fit in a word, with
at least one event in a batch; and all such numbers can be set. -/
namespace EventProbe

namespace Json
variable {l : Layout σ α} {holds : σ → Prop} {draft draft' : σ} {input rest : List Char} {value : α}

/-- The members of a record read nothing into a draft that breaks this. -/
def Layout.Keeps (l : Layout σ α) (holds : σ → Prop) : Prop :=
  ∀ m ∈ l.members, ∀ draft input draft' rest, holds draft →
    m.read draft input = .ok (draft', rest) → holds draft'

theorem readMembers_keeps (keeps : l.Keeps holds) {steps : Nat} {first : Bool} (start : holds draft)
    (read : readMembers l steps first draft input = .ok (draft', rest)) : holds draft' := by
  induction steps generalizing first draft input with
  | zero => cases read
  | succ steps ih =>
    unfold readMembers at read
    split at read
    · cases read
    · cases read
      exact start
    · split at read
      · split at read
        · cases read
        · split at read
          · cases read
          · exact ih start read
      · rename_i m found
        split at read
        · cases read
        · split at read
          · cases read
          · rename_i passed
            cases colon : skipColon _ <;> rw [colon] at passed
            · cases passed
            · exact ih (keeps m (List.mem_of_find?_eq_some found) _ _ _ _ start passed) read

theorem readElements_keeps {members : List (Member σ)} (keeps : l.Keeps holds)
    (known : members ⊆ l.members) {count : Nat} (start : holds draft)
    (read : readElements l members count draft input = .ok (draft', rest)) : holds draft' := by
  induction members generalizing count draft input with
  | nil =>
    cases read
    exact start
  | cons m members ih =>
    obtain ⟨here, known⟩ := List.cons_subset.mp known
    unfold readElements at read
    split at read
    · cases read
    · split at read
      · cases read
      · rename_i answer
        exact ih known (keeps m here _ _ _ _ start answer) read
    · split at read
      · exact ih known start read
      · cases read

theorem closeRecord_eq_ok {close leave : List Char → _} {result : Except Stop (σ × List Char)}
    (closed : closeRecord l close leave result = .ok (value, rest)) :
    ∃ draft rest, result = .ok (draft, rest) ∧ l.finish draft = .ok value := by
  unfold closeRecord at closed
  split at closed
  · cases closed
  · cases closed
  · rename_i draft rest
    split at closed
    · cases closed
    · rename_i made finished
      refine ⟨draft, rest, rfl, ?_⟩
      cases left : close rest <;> rw [left] at closed <;> cases closed
      exact finished

/-- A record that was read is made of a draft that keeps what its members keep. -/
theorem decode_keeps (keeps : l.Keeps holds) (start : holds l.start) {text : String}
    (decoded : decode (readRecord l) text = .ok value) :
    ∃ draft, holds draft ∧ l.finish draft = .ok value := by
  obtain ⟨rest, read⟩ : ∃ rest, readRecord l text.toList = .ok (value, rest) := by
    unfold decode decodeChars at decoded
    split at decoded
    · cases decoded
    · rename_i made rest read
      split at decoded
      · cases decoded
        exact ⟨rest, read⟩
      · cases decoded
  unfold readRecord at read
  split at read
  · cases read
  · obtain ⟨draft, rest, members, finished⟩ := closeRecord_eq_ok read
    exact ⟨draft, readMembers_keeps keeps start members, finished⟩
  · obtain ⟨draft, rest, members, finished⟩ := closeRecord_eq_ok read
    exact ⟨draft, readElements_keeps keeps (List.Subset.refl _) start members, finished⟩
  · cases read

theorem readNumber_eq_ok {expected : String} {convert : Number → Except Code α}
    (read : readNumber expected convert input = .ok (value, rest)) : ∃ n, convert n = .ok value := by
  unfold readNumber at read
  dsimp only at read
  -- The number is converted in two branches of the reader, after a sign and without one.
  repeat' split at read
  all_goals cases read
  all_goals exact ⟨_, by assumption⟩

theorem readNatural_lt {expected : String} {limit n : Nat}
    (read : readNatural expected limit input = .ok (n, rest)) : n < limit := by
  obtain ⟨number, found⟩ := readNumber_eq_ok read
  cases number with
  | natural v =>
    dsimp only at found
    split at found
    · rename_i small
      cases found
      exact small
    · cases found
  | negative v => cases found
  | real bits => cases found

end Json

namespace Countdown

def Draft.Fits (d : Draft) : Prop :=
  (∀ n ∈ d.remaining, n < wordLimit) ∧ ∀ n ∈ d.batchSize, n < wordLimit

theorem layout_keeps : layout.Keeps Draft.Fits := by
  intro m known draft input draft' rest fits read
  have set : ∀ f : Nat → Draft, (Json.readNatural "u64" wordLimit input).map
      (fun found => (f found.1, found.2)) = .ok (draft', rest) → ∃ v < wordLimit, draft' = f v := by
    intro f answer
    cases found : Json.readNatural "u64" wordLimit input with
    | error fault =>
      rw [found] at answer
      cases answer
    | ok result =>
      obtain ⟨v, rest⟩ := result
      rw [found] at answer
      cases answer
      exact ⟨v, Json.readNatural_lt found, rfl⟩
  simp only [layout, List.mem_cons, List.not_mem_nil, or_false] at known
  obtain rfl | rfl := known
  · obtain ⟨v, small, rfl⟩ := set (fun v => { draft with remaining := some v }) read
    exact ⟨by simpa using small, fits.2⟩
  · obtain ⟨v, small, rfl⟩ := set (fun v => { draft with batchSize := some v }) read
    exact ⟨fits.1, by simpa using small⟩

theorem Draft.Fits.plugin {d : Draft} (fits : d.Fits) :
    d.plugin.remaining < wordLimit ∧ d.plugin = ⟨d.plugin.remaining, d.plugin.batchSize, 0, 0⟩ := by
  refine ⟨?_, rfl⟩
  cases remaining : d.remaining with
  | none => simp [Draft.plugin, remaining, wordLimit]
  | some n =>
    have small := fits.1 n remaining
    simpa [Draft.plugin, remaining] using small

/-- An accepted configuration sets how many events there are and how many come in a batch. -/
theorem init_eq_ok {config : String} {p : Countdown} (accepted : init config = .ok p) :
    p.remaining < wordLimit ∧ 0 < p.batchSize ∧ p = ⟨p.remaining, p.batchSize, 0, 0⟩ := by
  have made : ∃ d : Draft, d.Fits ∧ d.plugin = p ∧ p.batchSize ≠ 0 := by
    unfold init configured at accepted
    split at accepted
    · cases accepted
    · rename_i q found
      split at accepted
      · cases accepted
      · rename_i some
        cases accepted
        split at found
        · cases found
          exact ⟨⟨none, none⟩, ⟨by simp, by simp⟩, rfl, some⟩
        · cases decoded : Json.decode (Json.readRecord layout) config with
          | error fault =>
            rw [decoded] at found
            cases found
          | ok value =>
            rw [decoded] at found
            cases found
            have start : layout.start.Fits := ⟨by simp [layout], by simp [layout]⟩
            obtain ⟨d, fits, finished⟩ := Json.decode_keeps layout_keeps start decoded
            cases finished
            exact ⟨d, fits, rfl, some⟩
  obtain ⟨d, fits, rfl, some⟩ := made
  exact ⟨fits.plugin.1, Nat.pos_of_ne_zero some, fits.plugin.2⟩

def settings (n m : Nat) : String :=
  String.ofList (Json.printObject
    [("remaining", Json.printNatural n), ("batch_size", Json.printNatural m)])

theorem init_settings {n m : Nat} (fits : n < wordLimit) (positive : 0 < m) (fits' : m < wordLimit) :
    init (settings n m) = .ok ⟨n, m, 0, 0⟩ := by
  have fills : Json.Fills layout layout.start
      [("remaining", Json.printNatural n), ("batch_size", Json.printNatural m)] ⟨some n, some m⟩ := by
    apply Json.Fills.cons rfl rfl
    · intro rest ended
      simp only [Json.readNatural_printNatural fits fits ended, Except.map]
      rfl
    apply Json.Fills.cons rfl rfl
    · intro rest ended
      simp only [Json.readNatural_printNatural fits' fits' ended, Except.map]
      rfl
    exact .nil
  have finished : layout.finish ⟨some n, some m⟩ = .ok ⟨n, m, 0, 0⟩ := rfl
  have decoded := Json.decode_printObject fills finished
  have dark : Text.isBlankText (settings n m) = false := by
    have brace : Text.isBlank '\x7b' = false := by decide
    simp [Text.isBlankText, settings, Json.printObject, brace]
  simp only [init, configured, dark, Bool.false_eq_true, if_false]
  rw [settings, decoded]
  simp only [Except.toOption, Nat.ne_of_gt positive, if_false]

end Countdown

end EventProbe
