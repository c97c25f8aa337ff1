import EventProbe.Extraction
import EventProbe.Proofs.Utf8RoundTrip
import Mathlib.Data.List.Basic

/-! The tokens of event data, and the value that a key has there: what stands behind the key and an
equals sign in the first token that begins with these. -/
namespace EventProbe

/-- A text is split at every blank. Where two blanks meet, and where one begins or ends the text, a token
is empty. -/
inductive Tokens : List Char → List (List Char) → Prop where
  | last : ' ' ∉ token → Tokens token [token]
  | next : ' ' ∉ token → Tokens text ts → Tokens (token ++ ' ' :: text) (token :: ts)

def Assigns (key token : List Char) : Prop :=
  ∃ value, token = key ++ '=' :: value

def keyOf (token : List Char) : List Char :=
  token.takeWhile (· != '=')

/-- A key is only how the part of a token before its first equals sign begins or ends. -/
structure MatchesPart (key token : List Char) : Prop where
  part : key <+: keyOf token ∨ key <:+ keyOf token
  proper : key ≠ keyOf token

instance (key token : List Char) : Decidable (Assigns key token) :=
  decidable_of_iff ((key ++ ['=']) <+: token) <| by
    simp only [List.IsPrefix, Assigns, List.append_assoc, List.singleton_append, eq_comm]

instance (key token : List Char) : Decidable (MatchesPart key token) :=
  decidable_of_iff ((key <+: keyOf token ∨ key <:+ keyOf token) ∧ key ≠ keyOf token)
    ⟨fun both => ⟨both.1, both.2⟩, fun part => ⟨part.part, part.proper⟩⟩

def textBefore (ts : List (List Char)) : List Char :=
  ts.flatMap (· ++ [' '])

def textAfter (ts : List (List Char)) : List Char :=
  ts.flatMap (' ' :: ·)

/-- The first token of a text that has the form key=value. -/
structure FirstAssignment (text key : List Char) (before : List (List Char)) (value : List Char)
    (after : List (List Char)) : Prop where
  tokens : Tokens text (before ++ (key ++ '=' :: value) :: after)
  first : ∀ token ∈ before, ¬ Assigns key token

/-! ## Splitting -/

section Splitting
variable {text token : List Char} {ts before after : List (List Char)}

theorem Tokens.splitOn_eq (split : Tokens text ts) : text.splitOn ' ' = ts := by
  induction split with
  | last dark => exact List.splitOn_eq_singleton dark
  | next dark _ ih => rw [List.splitOn_append_cons_self_of_not_mem dark, ih]

theorem tokens_splitOn (text : List Char) : Tokens text (text.splitOn ' ') := by
  induction text with
  | nil => exact .last List.not_mem_nil
  | cons c rest ih =>
    rw [List.splitOn_cons_eq_if_modifyHead]
    split
    · rename_i blank
      rw [beq_iff_eq.mp blank]
      exact .next List.not_mem_nil ih
    · rename_i visible
      have visible : ' ' ≠ c := fun same => visible (beq_iff_eq.mpr same.symm)
      -- A character that is no blank belongs to the first token of the rest.
      generalize rest.splitOn ' ' = ts at ih
      cases ih with
      | last dark => exact .last (List.not_mem_cons_of_ne_of_not_mem visible dark)
      | next dark later => exact .next (List.not_mem_cons_of_ne_of_not_mem visible dark) later

/-- A text has one list of tokens. -/
theorem tokens_iff : Tokens text ts ↔ text.splitOn ' ' = ts := by
  constructor
  · exact Tokens.splitOn_eq
  · rintro rfl
    exact tokens_splitOn text

instance (text : List Char) (ts : List (List Char)) : Decidable (Tokens text ts) :=
  decidable_of_iff _ tokens_iff.symm

theorem Tokens.dark (split : Tokens text ts) : ∀ token ∈ ts, ' ' ∉ token := by
  induction split with
  | last dark => exact List.forall_mem_singleton.mpr dark
  | next dark _ ih => exact List.forall_mem_cons.mpr ⟨dark, ih⟩

theorem Tokens.some (split : Tokens text ts) : ts ≠ [] := by
  cases split <;> exact List.cons_ne_nil _ _

theorem Tokens.rest (split : Tokens text (token :: ts)) (more : ts ≠ []) :
    ∃ later, text = token ++ ' ' :: later ∧ Tokens later ts := by
  cases split with
  | last => exact absurd rfl more
  | next _ later => exact ⟨_, rfl, later⟩

theorem Tokens.first (split : Tokens text (token :: after)) : text = token ++ textAfter after := by
  induction after generalizing text token with
  | nil =>
    cases split with
    | last => exact (List.append_nil _).symm
    | next _ later => exact absurd rfl later.some
  | cons second rest ih =>
    obtain ⟨later, rfl, behind⟩ := split.rest (List.cons_ne_nil _ _)
    rw [ih behind]
    rfl

/-- What stands before and after a token. -/
theorem Tokens.place (split : Tokens text (before ++ token :: after)) :
    text = textBefore before ++ token ++ textAfter after := by
  induction before generalizing text with
  | nil => exact split.first
  | cons head others ih =>
    obtain ⟨later, rfl, behind⟩ := split.rest (by simp)
    rw [ih behind]
    simp [textBefore]

theorem width_textBefore (token : List Char) (ts : List (List Char)) :
    Utf8.width (textBefore (token :: ts)) = Utf8.width token + 1 + Utf8.width (textBefore ts) := by
  rw [textBefore, List.flatMap_cons, Utf8.width_append, Utf8.width_append]
  rfl

theorem textBefore_end (before : List (List Char)) :
    textBefore before = [] ∨ ∃ chars, textBefore before = chars ++ [' '] := by
  obtain rfl | ⟨others, token, rfl⟩ := before.eq_nil_or_concat
  · exact .inl rfl
  · exact .inr ⟨textBefore others ++ token, by simp [textBefore]⟩

theorem textAfter_start (after : List (List Char)) :
    textAfter after = [] ∨ ∃ chars, textAfter after = ' ' :: chars := by
  cases after with
  | nil => exact .inl rfl
  | cons token rest => exact .inr ⟨token ++ textAfter rest, rfl⟩

end Splitting

/-! ## Matching -/

section Matching
variable {key token value : List Char} {ts before : List (List Char)} {position start : Nat}

theorem isPrefixOf?_assigns : (key ++ ['=']).isPrefixOf? token = some value ↔
    token = key ++ '=' :: value := by
  rw [List.isPrefixOf?_eq_some_iff_append_eq, List.append_assoc, List.singleton_append, eq_comm]

theorem findToken_assignment (key value : List Char) (after : List (List Char)) (position : Nat) :
    findToken key ((key ++ '=' :: value) :: after) position =
      some (position + Utf8.width key + 1, value) := by
  rw [findToken, isPrefixOf?_assigns.mpr rfl]

theorem findToken_other (other : ¬ Assigns key token) (after : List (List Char)) (position : Nat) :
    findToken key (token :: after) position =
      findToken key after (position + Utf8.width token + 1) := by
  rw [findToken]
  split
  · rename_i value found
    exact absurd ⟨value, isPrefixOf?_assigns.mp found⟩ other
  · rfl

/-- Tokens without a value for the key are passed over, with the blanks behind them. -/
theorem findToken_passes (others : ∀ token ∈ before, ¬ Assigns key token)
    (after : List (List Char)) (position : Nat) :
    findToken key (before ++ after) position =
      findToken key after (position + Utf8.width (textBefore before)) := by
  induction before generalizing position with
  | nil => rfl
  | cons token rest ih =>
    obtain ⟨other, others⟩ := List.forall_mem_cons.mp others
    rw [List.cons_append, findToken_other other, ih others, width_textBefore]
    congr 1
    omega

theorem assigns_or_not (key : List Char) (ts : List (List Char)) :
    (∀ token ∈ ts, ¬ Assigns key token) ∨ ∃ before value after,
      ts = before ++ (key ++ '=' :: value) :: after ∧ ∀ token ∈ before, ¬ Assigns key token := by
  induction ts with
  | nil => exact .inl (List.forall_mem_nil _)
  | cons token rest ih =>
    by_cases here : Assigns key token
    · obtain ⟨value, rfl⟩ := here
      exact .inr ⟨[], value, rest, rfl, List.forall_mem_nil _⟩
    · obtain others | ⟨before, value, after, rfl, others⟩ := ih
      · exact .inl (List.forall_mem_cons.mpr ⟨here, others⟩)
      · exact .inr ⟨token :: before, value, after, rfl, List.forall_mem_cons.mpr ⟨here, others⟩⟩

theorem findToken_eq_none (others : ∀ token ∈ ts, ¬ Assigns key token) :
    findToken key ts position = none := by
  have passed := findToken_passes others [] position
  rwa [List.append_nil] at passed

theorem findToken_eq_some_iff : findToken key ts position = some (start, value) ↔
    ∃ before after, ts = before ++ (key ++ '=' :: value) :: after ∧
      (∀ token ∈ before, ¬ Assigns key token) ∧
      start = position + Utf8.width (textBefore before) + Utf8.width key + 1 := by
  constructor
  · intro found
    obtain others | ⟨before, value', after, rfl, others⟩ := assigns_or_not key ts
    · cases (findToken_eq_none others).symm.trans found
    · rw [findToken_passes others, findToken_assignment] at found
      cases found
      exact ⟨before, after, rfl, others, rfl⟩
  · rintro ⟨before, after, rfl, others, rfl⟩
    rw [findToken_passes others, findToken_assignment]

/-- A key without an equals sign has a value only in a token where it is all that stands before the first
one. -/
theorem keyOf_of_assigns (plain : '=' ∉ key) (assigns : Assigns key token) :
    keyOf token = key := by
  obtain ⟨value, rfl⟩ := assigns
  have fits : ∀ c ∈ key, (c != '=') = true := by
    intro c member
    rw [bne_iff_ne]
    rintro rfl
    exact plain member
  rw [keyOf, List.takeWhile_append_of_pos fits]
  simp

theorem MatchesPart.not_assigns (part : MatchesPart key token) : ¬ Assigns key token := by
  intro assigns
  have within : ∀ c ∈ key, c ∈ keyOf token := by
    obtain starts | ends := part.part
    · exact fun c member => starts.subset member
    · exact fun c member => ends.subset member
  -- There is no equals sign before the first one.
  have plain : '=' ∉ key := by
    intro member
    have other := List.all_eq_true.mp List.all_takeWhile '=' (within _ member)
    simp at other
  exact part.proper (keyOf_of_assigns plain assigns).symm

end Matching

/-! ## Arguments -/

/-- A value stands in event data behind its key and an equals sign. The key begins where the data do or
behind a blank, and the value ends where they do or before a blank. -/
structure ValueStands (data : List UInt8) (key : String) (start : Nat) (value : List Char)
    (before after : List UInt8) : Prop where
  bytes : data = before ++ Utf8.encode key ++ 0x3D :: Utf8.encode (String.ofList value) ++ after
  start : start = before.length + (Utf8.encode key).length + 1
  opens : before = [] ∨ before.getLast? = some 0x20
  closes : after = [] ∨ after.head? = some 0x20

section Arguments
variable {data : List UInt8} {key text : String} {value : List Char} {start : Nat}
  {before after : List (List Char)}

theorem findArgument_encode (text key : String) : findArgument (Utf8.encode text) key =
    findToken key.toList (text.toList.splitOn ' ') 0 := by
  rw [findArgument, Utf8.decode_encode]
  rfl

theorem findArgument_eq_some_iff : findArgument data key = some (start, value) ↔
    ∃ text before after, data = Utf8.encode text ∧
      FirstAssignment text.toList key.toList before value after ∧
      start = Utf8.width (textBefore before) + Utf8.width key.toList + 1 := by
  constructor
  · intro found
    cases decoded : Utf8.decode data with
    | error fault =>
      rw [findArgument, decoded] at found
      cases found
    | ok text =>
      obtain rfl := Utf8.decode_eq_ok_iff.mp decoded
      rw [findArgument_encode, findToken_eq_some_iff] at found
      obtain ⟨before, after, split, first, place⟩ := found
      rw [Nat.zero_add] at place
      exact ⟨text, before, after, rfl, ⟨tokens_iff.mpr split, first⟩, place⟩
  · rintro ⟨text, before, after, rfl, assignment, rfl⟩
    rw [findArgument_encode, findToken_eq_some_iff]
    refine ⟨before, after, tokens_iff.mp assignment.tokens, assignment.first, ?_⟩
    rw [Nat.zero_add]

theorem isSome_findArgument_iff : (findArgument data key).isSome ↔
    ∃ text ts, data = Utf8.encode text ∧ Tokens text.toList ts ∧
      ∃ token ∈ ts, Assigns key.toList token := by
  constructor
  · intro some
    obtain ⟨⟨start, value⟩, found⟩ := Option.isSome_iff_exists.mp some
    obtain ⟨text, before, after, rfl, assignment, _⟩ := findArgument_eq_some_iff.mp found
    exact ⟨text, _, rfl, assignment.tokens, _, by simp, value, rfl⟩
  · rintro ⟨text, ts, rfl, split, token, member, assigns⟩
    obtain others | ⟨before, value, after, rfl, first⟩ := assigns_or_not key.toList ts
    · exact absurd assigns (others token member)
    · exact Option.isSome_iff_exists.mpr
        ⟨_, findArgument_eq_some_iff.mpr ⟨text, before, after, rfl, ⟨split, first⟩, rfl⟩⟩

theorem FirstAssignment.dark
    (assignment : FirstAssignment text.toList key.toList before value after) :
    ' ' ∉ key.toList ∧ ' ' ∉ value := by
  have dark := assignment.tokens.dark _ (List.mem_append_right _ List.mem_cons_self)
  simp only [List.mem_append, List.mem_cons, not_or] at dark
  exact ⟨dark.1, dark.2.2⟩

theorem FirstAssignment.valueStands
    (assignment : FirstAssignment text.toList key.toList before value after) :
    ValueStands (Utf8.encode text) key
      (Utf8.width (textBefore before) + Utf8.width key.toList + 1) value
      (Utf8.encode (String.ofList (textBefore before)))
      (Utf8.encode (String.ofList (textAfter after))) where
  bytes := by
    have equals : String.utf8EncodeChar '=' = [0x3D] := rfl
    rw [Utf8.encode, assignment.tokens.place]
    simp only [Utf8.encode_ofList, List.flatMap_append, List.flatMap_cons, equals, List.append_assoc,
      List.cons_append, List.nil_append]
    rfl
  start := by rw [Utf8.length_encode, Utf8.length_encode, String.toList_ofList]
  opens := by
    obtain nothing | ⟨chars, ended⟩ := textBefore_end before
    · exact .inl (by rw [nothing]; rfl)
    · right
      rw [ended, Utf8.encode_ofList, List.flatMap_append]
      exact List.getLast?_concat ..
  closes := by
    obtain nothing | ⟨chars, started⟩ := textAfter_start after
    · exact .inl (by rw [nothing]; rfl)
    · right
      rw [started, Utf8.encode_ofList]
      rfl

/-- A value is found for a key exactly if the data are text of which some token has the form key=value.
It is that of the first of them: it has no blank, and stands where the key and the equals sign end that
begin the token. A key with a blank has no value, nor has one that is only a part of other keys. -/
theorem first_assignment_found (data : List UInt8) (key : String) :
    ((findArgument data key).isSome ↔ ∃ text ts, data = Utf8.encode text ∧ Tokens text.toList ts ∧
      ∃ token ∈ ts, Assigns key.toList token) ∧
    (∀ start value, findArgument data key = some (start, value) ↔
      ∃ text before after, data = Utf8.encode text ∧
        FirstAssignment text.toList key.toList before value after ∧
        start = Utf8.width (textBefore before) + Utf8.width key.toList + 1) ∧
    (∀ start value, findArgument data key = some (start, value) →
      ' ' ∉ value ∧ ∃ text before after, data = Utf8.encode text ∧
        FirstAssignment text.toList key.toList before value after ∧
        ValueStands data key start value (Utf8.encode (String.ofList (textBefore before)))
          (Utf8.encode (String.ofList (textAfter after)))) ∧
    (' ' ∈ key.toList → findArgument data key = none) ∧
    ∀ text ts, data = Utf8.encode text → Tokens text.toList ts →
      (∀ token ∈ ts, ¬ MatchesPart key.toList token → ¬ Assigns key.toList token) →
      findArgument data key = none := by
  refine ⟨isSome_findArgument_iff, fun _ _ => findArgument_eq_some_iff, ?_, ?_, ?_⟩
  · intro start value found
    obtain ⟨text, before, after, rfl, assignment, rfl⟩ := findArgument_eq_some_iff.mp found
    exact ⟨assignment.dark.2, text, before, after, rfl, assignment, assignment.valueStands⟩
  · intro blank
    cases found : findArgument data key with
    | none => rfl
    | some answer =>
      obtain ⟨text, before, after, _, assignment, _⟩ := findArgument_eq_some_iff.mp found
      exact absurd blank assignment.dark.1
  · rintro text ts rfl split others
    have other : ∀ token ∈ ts, ¬ Assigns key.toList token := by
      intro token member
      by_cases part : MatchesPart key.toList token
      · exact part.not_assigns
      · exact others token member part
    rw [findArgument_encode, tokens_iff.mp split]
    exact findToken_eq_none other

/-- A key is found behind tokens whose keys it is only a part of. Blanks that meet and characters of
several bytes count for its place, and what stands behind the first equals sign for its value. -/
theorem shorter_key_found :
    let data := Utf8.encode "é xfd=1  fdx=2 fd==a= fd=3"
    findArgument data "fd" = some (19, "=a=".toList) ∧ ' ' ∉ "=a=".toList ∧
      (∃ before after, ValueStands data "fd" 19 "=a=".toList before after) ∧
      findArgument data "a fd" = none ∧ findArgument data "x" = none := by
  intro data
  obtain ⟨_, found, stands, _, _⟩ := first_assignment_found data "fd"
  have split : Tokens "é xfd=1  fdx=2 fd==a= fd=3".toList
      ["é".toList, "xfd=1".toList, [], "fdx=2".toList, "fd==a=".toList, "fd=3".toList] := by decide
  have place : findArgument data "fd" = some (19, "=a=".toList) :=
    (found _ _).mpr ⟨_, ["é".toList, "xfd=1".toList, [], "fdx=2".toList], ["fd=3".toList], rfl,
      ⟨split, by decide⟩, rfl⟩
  obtain ⟨_, _, _, blank, _⟩ := first_assignment_found data "a fd"
  obtain ⟨_, _, _, _, part⟩ := first_assignment_found data "x"
  obtain ⟨dark, _, _, _, _, _, stands⟩ := stands _ _ place
  exact ⟨place, dark, ⟨_, _, stands⟩, blank (by decide), part _ _ rfl split (by decide)⟩

end Arguments

end EventProbe
