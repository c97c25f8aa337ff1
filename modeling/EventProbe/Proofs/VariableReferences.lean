import EventProbe.Config.Load
import Mathlib.Data.List.Basic

/-! Texts with references to variables. A text is split in one way into references and other characters,
the references being those that are met from left to right. Values stand in the result as they are. -/
namespace EventProbe.Config

namespace Reference

/-- The name and the default can be written, so that they end where they should. -/
structure WellFormed (r : Reference) : Prop where
  name : ∃ first rest, r.name.toList = first :: rest ∧ beginsName first = true ∧
    ∀ c ∈ rest, isNameChar c = true
  default : ∀ d, r.default = some d → '\x7d' ∉ d.toList

/-- What stands between the name and the closing brace. -/
def alternative (r : Reference) : List Char :=
  match r.default with
  | some d => ':' :: '-' :: d.toList
  | none => []

def written (r : Reference) : List Char :=
  '$' :: '\x7b' :: (r.name.toList ++ (r.alternative ++ ['\x7d']))

end Reference

def Part.written : Part → List Char
  | .char c => [c]
  | .reference r => r.written

/-- How a text is split: where a reference begins, it is taken as a whole; any other character stands
for itself. -/
inductive Splits : List Char → List Part → Prop where
  | nil : Splits [] []
  | reference : r.WellFormed → Splits rest ps → Splits (r.written ++ rest) (.reference r :: ps)
  | char : (∀ r : Reference, r.WellFormed → ¬ r.written <+: c :: rest) → Splits rest ps →
      Splits (c :: rest) (.char c :: ps)

/-! ## One reference -/

section References
variable {r : Reference} {chars rest : List Char} {c : Char} {length : Nat}

theorem beginsName_isNameChar (begins : beginsName c = true) : isNameChar c = true := by
  simp only [beginsName, isNameChar, Char.isAlphanum, Bool.or_eq_true] at begins ⊢
  exact begins.imp_left .inl

theorem Reference.WellFormed.name_chars (valid : r.WellFormed) :
    ∀ c ∈ r.name.toList, isNameChar c = true := by
  obtain ⟨first, rest, spelled, begins, chars⟩ := valid.name
  rw [spelled]
  exact List.forall_mem_cons.mpr ⟨beginsName_isNameChar begins, chars⟩

theorem takeWhile_stop {p : Char → Bool} {fitting : List Char} (fits : ∀ c ∈ fitting, p c = true)
    (stops : p c = false) : (fitting ++ c :: rest).takeWhile p = fitting := by
  rw [List.takeWhile_append_of_pos fits, List.takeWhile_cons, stops]
  simp

theorem referenceAt_complete (valid : r.WellFormed) (rest : List Char) :
    referenceAt (r.written ++ rest) = some (r, r.written.length) := by
  have chars := valid.name_chars
  obtain ⟨first, others, spelled, begins, _⟩ := valid.name
  have head : ∀ tail, (r.name.toList ++ tail).head? = some first := by simp [spelled]
  obtain ⟨name, alternative⟩ := r
  cases alternative with
  | none =>
    have taken : (name.toList ++ '\x7d' :: rest).takeWhile isNameChar = name.toList :=
      takeWhile_stop chars (by decide)
    simp [Reference.written, Reference.alternative, referenceAt, head, begins, taken]
  | some d =>
    have open_ : ∀ c ∈ d.toList, (c != '\x7d') = true := by
      intro c inside
      rw [bne_iff_ne]
      rintro rfl
      exact valid.default d rfl inside
    have taken : ∀ tail, (name.toList ++ ':' :: tail).takeWhile isNameChar = name.toList :=
      fun tail => takeWhile_stop chars (by decide)
    have text : (d.toList ++ '\x7d' :: rest).takeWhile (· != '\x7d') = d.toList :=
      takeWhile_stop open_ (by simp)
    simp [Reference.written, Reference.alternative, referenceAt, head, begins, taken, text]
    omega

/-- The longest name at the start of a text that begins with one. -/
theorem wellFormed_takeWhile {d : Option String} (begins : rest.head?.map beginsName = some true)
    (closed : ∀ s, d = some s → '\x7d' ∉ s.toList) :
    (⟨String.ofList (rest.takeWhile isNameChar), d⟩ : Reference).WellFormed := by
  refine ⟨?_, closed⟩
  cases rest with
  | nil => simp at begins
  | cons first rest =>
    have begins : beginsName first = true := by simpa using begins
    refine ⟨first, rest.takeWhile isNameChar, ?_, begins, ?_⟩
    · simp [beginsName_isNameChar begins]
    · exact List.all_eq_true.mp List.all_takeWhile

theorem referenceAt_sound (found : referenceAt chars = some (r, length)) :
    r.WellFormed ∧ length = r.written.length ∧ r.written <+: chars := by
  unfold referenceAt at found
  split at found
  · rename_i rest
    have name := List.prefix_iff_eq_append.mp (List.takeWhile_prefix isNameChar (l := rest))
    dsimp only at found
    split at found
    · rename_i begins
      have begins : rest.head?.map beginsName = some true := by
        cases rest <;> simp_all
      split at found
      · rename_i left closed
        cases found
        refine ⟨wellFormed_takeWhile begins (by simp), ?_, left, ?_⟩
        · simp [Reference.written, Reference.alternative]
        · rw [closed] at name
          simp [Reference.written, Reference.alternative, name]
      · rename_i tail opened
        have text := List.prefix_iff_eq_append.mp
          (List.takeWhile_prefix (· != '\x7d') (l := tail))
        split at found
        · rename_i left closed
          cases found
          refine ⟨wellFormed_takeWhile begins ?_, ?_, left, ?_⟩
          · intro d same inside
            cases same
            have other := List.all_eq_true.mp List.all_takeWhile '\x7d' (by simpa using inside)
            simp at other
          · simp [Reference.written, Reference.alternative]
            omega
          · rw [closed] at text
            rw [opened] at name
            simp [Reference.written, Reference.alternative, name, text]
        · cases found
      · cases found
    · cases found
  · cases found

/-- A reference is read exactly where one begins. -/
theorem referenceAt_eq_some_iff : referenceAt chars = some (r, length) ↔
    r.WellFormed ∧ length = r.written.length ∧ r.written <+: chars := by
  constructor
  · exact referenceAt_sound
  · rintro ⟨valid, rfl, rest, rfl⟩
    exact referenceAt_complete valid rest

end References

/-! ## Splitting -/

section Splitting
variable {r : Reference} {chars rest : List Char} {c : Char} {ps : List Part}

/-- The characters that are covered are passed over, and the parts found before come first. -/
theorem splitParts_eq (chars : List Char) (covered : Nat) (found : List Part) :
    splitParts chars covered found = found.reverse ++ splitParts (chars.drop covered) 0 [] := by
  induction chars generalizing covered found with
  | nil => simp [splitParts]
  | cons c rest ih =>
    cases covered with
    | succ covered =>
      rw [splitParts, ih, List.drop_succ_cons]
    | zero =>
      rw [List.drop_zero, splitParts, splitParts]
      split
      · rename_i r length _
        rw [ih _ (.reference r :: found), ih _ [.reference r]]
        simp
      · rw [ih _ (.char c :: found), ih _ [.char c]]
        simp

theorem splitParts_written (valid : r.WellFormed) (rest : List Char) :
    splitParts (r.written ++ rest) 0 [] = .reference r :: splitParts rest 0 [] := by
  have here := referenceAt_eq_some_iff.mpr ⟨valid, rfl, List.prefix_append r.written rest⟩
  obtain ⟨c, tail, written⟩ : ∃ c tail, r.written = c :: tail := ⟨_, _, rfl⟩
  rw [written, List.cons_append] at here ⊢
  rw [splitParts, here]
  simp only
  rw [splitParts_eq]
  simp

theorem splitParts_char (none : ∀ r : Reference, r.WellFormed → ¬ r.written <+: c :: rest) :
    splitParts (c :: rest) 0 [] = .char c :: splitParts rest 0 [] := by
  have here : referenceAt (c :: rest) = .none := by
    cases found : referenceAt (c :: rest) with
    | none => rfl
    | some answer =>
      obtain ⟨valid, _, begins⟩ := referenceAt_eq_some_iff.mp found
      exact absurd begins (none _ valid)
  rw [splitParts, here]
  simp only
  rw [splitParts_eq]
  simp

theorem Splits.eq_splitParts (splits : Splits chars ps) : ps = splitParts chars 0 [] := by
  induction splits with
  | nil => rfl
  | reference valid _ ih => rw [splitParts_written valid, ← ih]
  | char none _ ih => rw [splitParts_char none, ← ih]

/-- Every text can be split. -/
theorem splits_splitParts (chars : List Char) : Splits chars (splitParts chars 0 []) := by
  induction size : chars.length using Nat.strongRecOn generalizing chars with
  | ind n ih =>
    subst size
    cases chars with
    | nil => exact .nil
    | cons c rest =>
      by_cases begins : ∃ r : Reference, r.WellFormed ∧ r.written <+: c :: rest
      · obtain ⟨r, valid, left, whole⟩ := begins
        have shorter : left.length < (c :: rest).length := by
          rw [← whole]
          simp [Reference.written]
          omega
        rw [← whole, splitParts_written valid]
        exact .reference valid (ih _ shorter left rfl)
      · have none : ∀ r : Reference, r.WellFormed → ¬ r.written <+: c :: rest :=
          fun r valid here => begins ⟨r, valid, here⟩
        rw [splitParts_char none]
        exact .char none (ih _ (Nat.lt_succ_self _) rest rfl)

theorem splits_iff : Splits chars ps ↔ ps = splitParts chars 0 [] := by
  constructor
  · exact Splits.eq_splitParts
  · rintro rfl
    exact splits_splitParts chars

theorem Splits.written_eq (splits : Splits chars ps) : ps.flatMap Part.written = chars := by
  induction splits with
  | nil => rfl
  | reference _ _ ih => rw [List.flatMap_cons, ih, Part.written]
  | char _ _ ih => rw [List.flatMap_cons, ih, Part.written, List.singleton_append]

end Splitting

/-! ## Values -/

def Part.reference? : Part → Option Reference
  | .char _ => none
  | .reference r => some r

def references (ps : List Part) : List Reference :=
  ps.filterMap Part.reference?

/-- Nothing stands for a reference. -/
def Context.Lacks (c : Context) (process : String → Option String) (r : Reference) : Prop :=
  c.bindings.lookup r.name = none ∧ process r.name = none ∧ r.default = none

instance (c : Context) (process : String → Option String) :
    DecidablePred (c.Lacks process) :=
  fun _ => inferInstanceAs (Decidable (_ ∧ _))

/-- A text with values in the place of its references: those of the context, else those of the process,
else the defaults. -/
inductive Context.Fills (c : Context) (process : String → Option String) :
    List Part → List Char → Prop where
  | nil : Fills c process [] []
  | char : Fills c process ps out → Fills c process (.char a :: ps) (a :: out)
  | bound : c.bindings.lookup r.name = some v → Fills c process ps out →
      Fills c process (.reference r :: ps) (v.toList ++ out)
  | inherited : c.bindings.lookup r.name = none → process r.name = some v → Fills c process ps out →
      Fills c process (.reference r :: ps) (v.toList ++ out)
  | default : c.bindings.lookup r.name = none → process r.name = none → r.default = some v →
      Fills c process ps out → Fills c process (.reference r :: ps) (v.toList ++ out)

section Values
variable {c c' : Context} {process process' : String → Option String} {r : Reference}
  {ps : List Part} {text : String}

theorem value_eq_none_iff : r.value (c.lookup process) = none ↔ c.Lacks process r := by
  simp [Reference.value, Context.lookup, Context.Lacks, Option.or_eq_none_iff, and_assoc]

theorem unbound_eq : unbound (c.lookup process) ps =
    ((references ps).filter (c.Lacks process)).map Reference.name := by
  induction ps with
  | nil => rfl
  | cons part rest ih =>
    cases part with
    | char a => exact ih
    | reference r =>
      unfold unbound references at ih ⊢
      by_cases lacks : c.Lacks process r
      · have none := value_eq_none_iff.mpr lacks
        simpa [Part.reference?, lacks, none] using ih
      · have some : (r.value (c.lookup process)).isSome = true := by
          rw [Option.isSome_iff_ne_none, Ne, value_eq_none_iff]
          exact lacks
        simpa [Part.reference?, lacks, some] using ih

theorem fills_chars (bound : ∀ r ∈ references ps, ¬ c.Lacks process r) :
    c.Fills process ps (ps.flatMap (Part.chars (c.lookup process))) := by
  induction ps with
  | nil => exact .nil
  | cons part rest ih =>
    cases part with
    | char a => exact .char (ih bound)
    | reference r =>
      obtain ⟨here, bound⟩ := List.forall_mem_cons.mp
        (show ∀ s ∈ r :: references rest, ¬ c.Lacks process s from bound)
      have filled := ih bound
      rw [List.flatMap_cons]
      cases own : c.bindings.lookup r.name with
      | some v =>
        have chars : Part.chars (c.lookup process) (.reference r) = v.toList := by
          simp [Part.chars, Reference.value, Context.lookup, own]
        rw [chars]
        exact .bound own filled
      | none =>
        cases inherited : process r.name with
        | some v =>
          have chars : Part.chars (c.lookup process) (.reference r) = v.toList := by
            simp [Part.chars, Reference.value, Context.lookup, own, inherited]
          rw [chars]
          exact .inherited own inherited filled
        | none =>
          cases alternative : r.default with
          | none => exact absurd ⟨own, inherited, alternative⟩ here
          | some v =>
            have chars : Part.chars (c.lookup process) (.reference r) = v.toList := by
              simp [Part.chars, Reference.value, Context.lookup, own, inherited, alternative]
            rw [chars]
            exact .default own inherited alternative filled

theorem interpolate_of_bound (bound : ∀ r ∈ references (parts text), ¬ c.Lacks process r) :
    interpolate (c.lookup process) text =
      .ok (String.ofList ((parts text).flatMap (Part.chars (c.lookup process)))) := by
  have all : unbound (c.lookup process) (parts text) = [] := by
    rw [unbound_eq, List.map_eq_nil_iff, List.filter_eq_nil_iff]
    simpa using bound
  simp only [interpolate, all]

theorem interpolate_of_lacks (lacks : ∃ r ∈ references (parts text), c.Lacks process r) :
    interpolate (c.lookup process) text =
      .error (((references (parts text)).filter (c.Lacks process)).map Reference.name) := by
  obtain ⟨r, there, lacks⟩ := lacks
  have named : r.name ∈ unbound (c.lookup process) (parts text) := by
    rw [unbound_eq]
    apply List.mem_map_of_mem
    simp [there, lacks]
  rw [← unbound_eq]
  cases names : unbound (c.lookup process) (parts text) with
  | nil => simp [names] at named
  | cons first others => simp only [interpolate, names]

theorem chars_of_no_references (lookup : String → Option String) (none : references ps = []) :
    ps.flatMap (Part.chars lookup) = ps.flatMap Part.written := by
  apply List.flatMap_congr
  intro part there
  cases part with
  | char a => rfl
  | reference r =>
    have referred : r ∈ references ps := List.mem_filterMap.mpr ⟨_, there, rfl⟩
    simp [none] at referred

/-- The result depends on the values of the variables that the text refers to, and on no others. -/
theorem interpolate_congr
    (agree : ∀ r ∈ references (parts text), c'.lookup process' r.name = c.lookup process r.name) :
    interpolate (c'.lookup process') text = interpolate (c.lookup process) text := by
  have value : ∀ r, .reference r ∈ parts text →
      r.value (c'.lookup process') = r.value (c.lookup process) := by
    intro r there
    have referred : r ∈ references (parts text) := List.mem_filterMap.mpr ⟨_, there, rfl⟩
    simp only [Reference.value, agree r referred]
  have names : unbound (c'.lookup process') (parts text) =
      unbound (c.lookup process) (parts text) := by
    apply List.filterMap_congr
    intro part there
    cases part with
    | char a => rfl
    | reference r => simp only [value r there]
  have chars : (parts text).flatMap (Part.chars (c'.lookup process')) =
      (parts text).flatMap (Part.chars (c.lookup process)) := by
    apply List.flatMap_congr
    intro part there
    cases part with
    | char a => rfl
    | reference r => simp only [Part.chars, value r there]
  simp only [interpolate, names, chars]

/-- A text is split in one way. If something stands for every reference, all references are replaced and
nothing else; if not, those without a value are named, in order, and settings are not loaded. -/
theorem interpolates_exactly (c : Context) (process : String → Option String) (text : String) :
    ∃ ps, (∀ qs, Splits text.toList qs ↔ qs = ps) ∧ ps.flatMap Part.written = text.toList ∧
      ((∀ r ∈ references ps, ¬ c.Lacks process r) →
        ∃ out, interpolate (c.lookup process) text = .ok out ∧ c.Fills process ps out.toList) ∧
      ((∃ r ∈ references ps, c.Lacks process r) →
        let names := ((references ps).filter (c.Lacks process)).map Reference.name
        interpolate (c.lookup process) text = .error names ∧
          load (c.lookup process) text = .error (.unbound names)) ∧
      (references ps = [] → interpolate (c.lookup process) text = .ok text) ∧
      ∀ (c' : Context) (process' : String → Option String),
        (∀ r ∈ references ps, c'.lookup process' r.name = c.lookup process r.name) →
        interpolate (c'.lookup process') text = interpolate (c.lookup process) text := by
  have splits : Splits text.toList (parts text) := splits_splitParts text.toList
  refine ⟨parts text, fun qs => splits_iff, splits.written_eq, ?_, ?_, ?_, ?_⟩
  · intro bound
    refine ⟨_, interpolate_of_bound bound, ?_⟩
    rw [String.toList_ofList]
    exact fills_chars bound
  · intro lacks
    have failed := interpolate_of_lacks lacks
    refine ⟨failed, ?_⟩
    simp only [load, failed]
    rfl
  · intro none
    have bound : ∀ r ∈ references (parts text), ¬ c.Lacks process r := by simp [none]
    rw [interpolate_of_bound bound, chars_of_no_references _ none, splits.written_eq,
      String.ofList_toList]
  · intro c' process' agree
    exact interpolate_congr agree

/-- An opening that is not closed in time stands for itself, and so does what is put in. -/
example : interpolate
    ((Context.empty.set "A" "$\x7bB\x7d").lookup fun name => if name = "B" then some "b" else none)
    "$$\x7bA:-\x7b\x7d $\x7bB$\x7bB\x7d$\x7bC:-$\x7bB\x7d" =
      .ok "$$\x7bB\x7d $\x7bBb$\x7bB" := by decide +kernel

end Values

end EventProbe.Config
