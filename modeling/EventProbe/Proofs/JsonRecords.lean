import EventProbe.Proofs.JsonGrammar

/-! What typed readers make of JSON values. A reader gives what a value means for its type and leaves
what is behind the value, or it fails. A record is filled from an object, member after member in their
order, or from a list; each member that is known has a place in the draft of the record. -/
namespace EventProbe.Json

/-- A reader gives what values mean, and fails for values that mean nothing. -/
structure Takes (read : Reader α) (mean : Value → Option α) : Prop where
  reads : Blanks start input → Spelled v input rest → mean v = some a → read start = .ok (a, rest)
  fails : Blanks start input → Spelled v input rest → mean v = none → ∃ f, read start = .error f

/-! ## Values of single readers -/

def Value.bool? : Value → Option Bool
  | .bool b => some b
  | _ => none

def Value.text? : Value → Option String
  | .text s => some s
  | _ => none

def Value.option? (mean : Value → Option α) : Value → Option (Option α)
  | .null => some none
  | v => (mean v).map some

theorem Value.bool?_eq_some {v : Value} {b : Bool} (means : v.bool? = some b) : v = .bool b := by
  cases v <;> cases means
  rfl

theorem Value.text?_eq_some {v : Value} {s : String} (means : v.text? = some s) : v = .text s := by
  cases v <;> cases means
  rfl

def Value.Opens : Value → Char → Prop
  | .null, c => c = 'n'
  | .bool true, c => c = 't'
  | .bool false, c => c = 'f'
  | .number _, c => c = '-' ∨ isDigit c = true
  | .text _, c => c = '"'
  | .list _, c => c = '['
  | .object _, c => c = '\x7b'

section Openings
variable {v : Value} {start input rest : List Char} {c : Char}

theorem NumberText.opens {chars : List Char} (number : NumberText chars) :
    ∃ c tail, chars = c :: tail ∧ (c = '-' ∨ isDigit c = true) := by
  cases number with
  | @intro sign whole fraction exponent signed digits _ _ =>
    simp only [List.mem_cons, List.not_mem_nil, or_false] at signed
    obtain rfl | rfl := signed
    · cases digits with
      | zero => exact ⟨_, _, rfl, .inr rfl⟩
      | digits _ all => exact ⟨_, _, rfl, .inr (all _ List.mem_cons_self)⟩
    · exact ⟨_, _, rfl, .inl rfl⟩

theorem Spelled.opens (spelled : Spelled v input rest) : ∃ c tail, input = c :: tail ∧ v.Opens c := by
  cases spelled with
  | number number =>
    obtain ⟨c, tail, rfl, opens⟩ := number.opens
    exact ⟨c, _, rfl, opens⟩
  | text quoted =>
    obtain ⟨chars, rfl, _⟩ := quoted.read
    exact ⟨_, _, rfl, rfl⟩
  | _ => exact ⟨_, _, rfl, rfl⟩

theorem Value.Opens.dark (opens : v.Opens c) : isSpace c = false := by
  have digit : ∀ c, c = '-' ∨ isDigit c = true → isSpace c = false := by
    rintro c (rfl | digit)
    · rfl
    · exact not_space_of_digit digit
  cases v with
  | bool b => cases b <;> (obtain rfl := opens; rfl)
  | number => exact digit c opens
  | _ => obtain rfl := opens; rfl

/-- Readers pass over blanks to the first character of a value. -/
theorem Spelled.found (spelled : Spelled v input rest) (blanks : Blanks start input) :
    ∃ c tail, input = c :: tail ∧ skipSpace start = c :: tail ∧ v.Opens c := by
  obtain ⟨c, tail, rfl, opens⟩ := spelled.opens
  exact ⟨c, tail, rfl, blanks.skip_to opens.dark, opens⟩

/-- The first character tells the kind of a value. -/
theorem Value.Opens.kind (opens : v.Opens c) :
    (c = 'n' → v = .null) ∧ (c = 't' → v = .bool true) ∧ (c = 'f' → v = .bool false) ∧
      (c = '"' → ∃ s, v = .text s) ∧ (c = '[' → ∃ vs, v = .list vs) ∧
      (c = '\x7b' → ∃ ms, v = .object ms) := by
  cases v with
  | bool b => cases b <;> (obtain rfl := opens; simp)
  | number =>
    obtain rfl | digit := opens
    · simp
    · refine ⟨?_, ?_, ?_, ?_, ?_, ?_⟩ <;> (rintro rfl; cases digit)
  | _ => obtain rfl := opens; simp

theorem Value.Opens.not_end (opens : v.Opens c) : c ≠ ']' ∧ c ≠ ',' := by
  cases v with
  | bool b => cases b <;> (obtain rfl := opens; decide)
  | number =>
    obtain rfl | digit := opens
    · decide
    · constructor <;> (rintro rfl; cases digit)
  | _ => obtain rfl := opens; decide

end Openings

section Leaves
variable {start input rest tail : List Char} {c : Char}

theorem readBool_other (found : skipSpace start = c :: tail) (t : c ≠ 't') (f : c ≠ 'f') :
    ∃ fault, readBool start = .error fault := by
  unfold readBool
  rw [found]
  split
  · exact ⟨_, rfl⟩
  · rename_i same
    exact absurd (List.cons.inj same).1 t
  · rename_i same
    exact absurd (List.cons.inj same).1 f
  · exact ⟨_, rfl⟩

theorem readText_other (found : skipSpace start = c :: tail) (quote : c ≠ '"') :
    ∃ fault, readText start = .error fault := by
  unfold readText readTextAs
  rw [found]
  split
  · exact ⟨_, rfl⟩
  · rename_i same
    exact absurd (List.cons.inj same).1 quote
  · exact ⟨_, rfl⟩

theorem readRecord_other {l : Layout σ α} (found : skipSpace start = c :: tail) (brace : c ≠ '\x7b')
    (bracket : c ≠ '[') : ∃ fault, readRecord l start = .error fault := by
  unfold readRecord
  rw [found]
  split
  · exact ⟨_, rfl⟩
  · rename_i same
    exact absurd (List.cons.inj same).1 brace
  · rename_i same
    exact absurd (List.cons.inj same).1 bracket
  · exact ⟨_, rfl⟩

theorem takes_bool : Takes readBool Value.bool? where
  reads {start input v rest b} blanks spelled means := by
    have dark : isSpace 't' = false ∧ isSpace 'f' = false := by decide
    cases spelled <;> cases means
    · rw [readBool, blanks.skip_to dark.1]
      rfl
    · rw [readBool, blanks.skip_to dark.2]
      rfl
  fails {start input v rest} blanks spelled means := by
    obtain ⟨c, tail, _, found, opens⟩ := spelled.found blanks
    obtain ⟨_, t, f, _⟩ := opens.kind
    apply readBool_other found
    · intro same
      rw [t same] at means
      cases means
    · intro same
      rw [f same] at means
      cases means

theorem takes_text : Takes readText Value.text? where
  reads {start input v rest s} blanks spelled means := by
    cases spelled <;> cases means
    rename_i quoted
    obtain ⟨chars, rfl, read⟩ := quoted.read
    have dark : isSpace '"' = false := by decide
    unfold readText readTextAs
    rw [blanks.skip_to dark]
    simp only [read]
  fails {start input v rest} blanks spelled means := by
    obtain ⟨c, tail, _, found, opens⟩ := spelled.found blanks
    apply readText_other found
    intro same
    obtain ⟨s, rfl⟩ := opens.kind.2.2.2.1 same
    cases means

theorem readOption_other {read : Reader α} (found : skipSpace start = c :: tail) (n : c ≠ 'n') :
    readOption read start = (read (c :: tail)).map fun (value, rest) => (some value, rest) := by
  unfold readOption
  rw [found]
  split
  · rename_i same
    exact absurd (List.cons.inj same).1 n
  · rfl

theorem Value.option?_of_ne_null {v : Value} (other : v ≠ .null) (mean : Value → Option α) :
    option? mean v = (mean v).map some := by
  cases v with
  | null => exact absurd rfl other
  | _ => rfl

theorem takes_option {read : Reader α} {mean : Value → Option α} (takes : Takes read mean) :
    Takes (readOption read) (Value.option? mean) where
  reads {start input v rest a} blanks spelled means := by
    obtain ⟨c, tail, rfl, found, opens⟩ := spelled.found blanks
    by_cases n : c = 'n'
    · obtain rfl := opens.kind.1 n
      cases spelled
      cases means
      rw [readOption, found]
      rfl
    · have other : v ≠ .null := by
        rintro rfl
        exact n opens
      rw [Value.option?_of_ne_null other] at means
      obtain ⟨value, meant, rfl⟩ := Option.map_eq_some_iff.mp means
      rw [readOption_other found n, takes.reads .none spelled meant]
      rfl
  fails {start input v rest} blanks spelled means := by
    obtain ⟨c, tail, rfl, found, opens⟩ := spelled.found blanks
    have other : v ≠ .null := by
      rintro rfl
      cases means
    rw [Value.option?_of_ne_null other, Option.map_eq_none_iff] at means
    have n : c ≠ 'n' := fun same => other (opens.kind.1 same)
    obtain ⟨fault, failed⟩ := takes.fails .none spelled means
    rw [readOption_other found n, failed]
    exact ⟨fault, rfl⟩

theorem Takes.map {read : Reader α} {mean : Value → Option α} (takes : Takes read mean) (f : α → β) :
    Takes (fun start => (read start).map fun (value, rest) => (f value, rest))
      fun v => (mean v).map f where
  reads {start input v rest b} blanks spelled means := by
    obtain ⟨value, meant, rfl⟩ := Option.map_eq_some_iff.mp means
    dsimp only
    rw [takes.reads blanks spelled meant]
    rfl
  fails {start input v rest} blanks spelled means := by
    obtain ⟨fault, failed⟩ := takes.fails blanks spelled (Option.map_eq_none_iff.mp means)
    dsimp only
    rw [failed]
    exact ⟨fault, rfl⟩

end Leaves

/-! ## Records -/

/-- A member of a record with its place in the draft and what its values mean. -/
structure Entry (σ : Type) where
  member : Member σ
  Content : Type
  get : σ → Option Content
  set : σ → Content → σ
  mean : Value → Option Content
  given_eq : ∀ draft, member.given draft = (get draft).isSome
  get_set : ∀ draft x, get (set draft x) = some x
  takes : ∀ draft, Takes (member.read draft) fun v => (mean v).map (set draft)

/-- The members of a strict record, each with a place of its own. -/
structure Table (l : Layout σ α) where
  entries : List (Entry σ)
  members : l.members = entries.map Entry.member
  strict : l.strict = true
  apart : ∀ a ∈ entries, ∀ b ∈ entries, a.member.name ≠ b.member.name →
    ∀ draft x, b.get (a.set draft x) = b.get draft

namespace Table
variable {l : Layout σ α}

def entry? (t : Table l) (key : String) : Option (Entry σ) :=
  t.entries.find? (·.member.name == key)

/-- The draft after the members of an object, if each is known and given once, with a value of its
type. -/
def fill (t : Table l) : σ → List (String × Value) → Option σ
  | draft, [] => some draft
  | draft, (key, v) :: rest =>
    match t.entry? key with
    | none => none
    | some e =>
      if (e.get draft).isSome then none
      else match e.mean v with
        | none => none
        | some x => t.fill (e.set draft x) rest

/-- The draft after the elements of a list, which are the members in order. -/
def fillList : List (Entry σ) → σ → List Value → Option σ
  | [], draft, [] => some draft
  | [], _, _ :: _ => none
  | e :: entries, draft, [] => if e.member.optional then fillList entries draft [] else none
  | e :: entries, draft, v :: vs =>
    match e.mean v with
    | none => none
    | some x => fillList entries (e.set draft x) vs

def record? (t : Table l) : Value → Option α
  | .object ms => (t.fill l.start ms).bind fun draft => (l.finish draft).toOption
  | .list vs => (fillList t.entries l.start vs).bind fun draft => (l.finish draft).toOption
  | _ => none

/-! ## Filled drafts -/

section Fillings
variable {t : Table l} {draft d : σ} {ms : List (String × Value)} {key : String} {v : Value} {e a : Entry σ}

theorem entry?_name (known : t.entry? key = some e) : e ∈ t.entries ∧ e.member.name = key := by
  have named := List.find?_some known
  exact ⟨List.mem_of_find?_eq_some known, eq_of_beq named⟩

/-- Places that are not a member's own are left as they are. -/
theorem get_set_other (known : t.entry? key = some e) {other : String} (known' : t.entry? other = some a)
    (differ : other ≠ key) (draft : σ) (x : a.Content) : e.get (a.set draft x) = e.get draft := by
  obtain ⟨inside, rfl⟩ := entry?_name known
  obtain ⟨inside', rfl⟩ := entry?_name known'
  exact t.apart a inside' e inside differ draft x

theorem fill_cons (filled : t.fill draft ((key, v) :: ms) = some d) : ∃ e x, t.entry? key = some e ∧
    e.get draft = none ∧ e.mean v = some x ∧ t.fill (e.set draft x) ms = some d := by
  rw [fill] at filled
  split at filled
  · cases filled
  · rename_i e known
    split at filled
    · cases filled
    · rename_i fresh
      split at filled
      · cases filled
      · rename_i x meant
        exact ⟨e, x, known, by simpa using fresh, meant, filled⟩

/-- Only members that are known, and not given before, fill a draft. -/
theorem fill_known (filled : t.fill draft ms = some d) (inside : key ∈ ms.map Prod.fst) :
    ∃ e, t.entry? key = some e ∧ e.get draft = none := by
  induction ms generalizing draft with
  | nil => cases inside
  | cons part ms ih =>
    obtain ⟨a, x, known, fresh, _, later⟩ := fill_cons filled
    by_cases same : key = part.1
    · exact ⟨a, same ▸ known, fresh⟩
    · have inside := (List.mem_cons.mp inside).resolve_left same
      obtain ⟨e, known', fresh'⟩ := ih later inside
      rw [get_set_other known' known (Ne.symm same)] at fresh'
      exact ⟨e, known', fresh'⟩

theorem fill_nodup (filled : t.fill draft ms = some d) : (ms.map Prod.fst).Nodup := by
  induction ms generalizing draft with
  | nil => exact List.nodup_nil
  | cons part ms ih =>
    obtain ⟨e, x, known, _, _, later⟩ := fill_cons filled
    refine List.nodup_cons.mpr ⟨?_, ih later⟩
    intro again
    obtain ⟨e', known', fresh⟩ := fill_known later again
    rw [known] at known'
    cases known'
    rw [e.get_set] at fresh
    cases fresh

/-- A place holds what the value of its member means, or what it held if the member is not given. -/
theorem fill_get (filled : t.fill draft ms = some d) (known : t.entry? key = some e) :
    (∀ v, (key, v) ∈ ms → ∃ x, e.mean v = some x ∧ e.get d = some x) ∧
      (key ∉ ms.map Prod.fst → e.get d = e.get draft) := by
  induction ms generalizing draft with
  | nil =>
    cases filled
    exact ⟨fun _ inside => absurd inside List.not_mem_nil, fun _ => rfl⟩
  | cons part ms ih =>
    obtain ⟨a, x, known', _, meant, later⟩ := fill_cons filled
    obtain ⟨given, absent⟩ := ih later
    have once := (List.nodup_cons.mp (fill_nodup filled)).1
    constructor
    · intro v inside
      obtain rfl | inside := List.mem_cons.mp inside
      · rw [known] at known'
        cases known'
        exact ⟨x, meant, (absent once).trans (e.get_set draft x)⟩
      · exact given v inside
    · intro missing
      rw [List.map_cons, List.mem_cons, not_or] at missing
      obtain ⟨differ, missing⟩ := missing
      rw [absent missing, get_set_other known known' (Ne.symm differ)]

/-- Members that are known, given once and of their types fill a draft. -/
theorem exists_fill (once : (ms.map Prod.fst).Nodup)
    (known : ∀ key v, (key, v) ∈ ms → ∃ e, t.entry? key = some e ∧ e.get draft = none ∧ ∃ x, e.mean v = some x) :
    ∃ d, t.fill draft ms = some d := by
  induction ms generalizing draft with
  | nil => exact ⟨draft, rfl⟩
  | cons part ms ih =>
    obtain ⟨key, v⟩ := part
    obtain ⟨new, once⟩ := List.nodup_cons.mp once
    obtain ⟨e, here, fresh, x, meant⟩ := known key v List.mem_cons_self
    have later : ∀ other w, (other, w) ∈ ms →
        ∃ a, t.entry? other = some a ∧ a.get (e.set draft x) = none ∧ ∃ y, a.mean w = some y := by
      intro other w inside
      obtain ⟨a, known, fresh, means⟩ := known other w (List.mem_cons_of_mem _ inside)
      have differ : key ≠ other := by
        rintro rfl
        exact new (List.mem_map.mpr ⟨_, inside, rfl⟩)
      exact ⟨a, known, (get_set_other known here differ draft x).trans fresh, means⟩
    obtain ⟨d, filled⟩ := ih once later
    refine ⟨d, ?_⟩
    rw [fill, here]
    simp [fresh, meant, filled]

/-- An object that means a record has only known keys, each once. -/
theorem record?_keys {whole : α} (means : t.record? (.object ms) = some whole) :
    (ms.map Prod.fst).Nodup ∧ ∀ key ∈ ms.map Prod.fst, key ∈ t.entries.map (·.member.name) := by
  obtain ⟨d, filled, _⟩ := Option.bind_eq_some_iff.mp means
  refine ⟨fill_nodup filled, ?_⟩
  intro key inside
  obtain ⟨e, known, _⟩ := fill_known filled inside
  obtain ⟨there, rfl⟩ := entry?_name known
  exact List.mem_map_of_mem there

end Fillings

/-! ## Reading objects -/

section Objects
variable {start rest key colon value : List Char} {first : Bool} {name : String} {draft d : σ}
  {ms : List (String × Value)} {steps : Nat}

theorem find?_members (t : Table l) (key : String) :
    l.members.find? (·.name == key) = (t.entry? key).map Entry.member := by
  rw [t.members, List.find?_map]
  rfl

theorem nextKey_lead (lead : Lead first start key) (quoted : Quoted name key colon) :
    nextKey first start = .ok (some name, colon) := by
  obtain ⟨chars, rfl, read⟩ := quoted.read
  cases lead with
  | first blanks =>
    rw [nextKey, blanks.skip_to (by decide)]
    change (string chars).map _ = _
    rw [read]
    rfl
  | later comma blanks =>
    have quote := blanks.skip_to (show isSpace '"' = false by decide)
    unfold nextKey
    rw [comma.skip_to (by decide)]
    split
    · contradiction
    · rename_i same
      exact absurd (List.cons.inj same).1 (by decide)
    · rename_i same
      cases same
      rw [if_neg Bool.false_ne_true, if_pos rfl, quote]
      change (string chars).map _ = _
      rw [read]
      rfl

theorem nextKey_done (blanks : Blanks start ('\x7d' :: rest)) (first : Bool) :
    nextKey first start = .ok (none, '\x7d' :: rest) := by
  rw [nextKey, blanks.skip_to (by decide)]
  rfl

theorem skipColon_colon (blanks : Blanks colon (':' :: value)) : skipColon colon = .ok value := by
  rw [skipColon, blanks.skip_to (by decide)]
  rfl

/-- Members are read into the draft that they fill, and otherwise not read. -/
theorem readMembers_spelled (t : Table l) (spelled : Members first ms start rest)
    (enough : ms.length < steps) (draft : σ) :
    (∀ d, t.fill draft ms = some d → readMembers l steps first draft start = .ok (d, '\x7d' :: rest)) ∧
      (t.fill draft ms = none → ∃ stop, readMembers l steps first draft start = .error stop) := by
  obtain ⟨steps, rfl⟩ : ∃ left, steps = left + 1 := ⟨steps - 1, by omega⟩
  induction ms generalizing first start steps draft with
  | nil =>
    cases spelled with
    | done blanks =>
      rw [readMembers, nextKey_done blanks, fill]
      constructor
      · intro d same
        cases same
        rfl
      · intro none
        cases none
  | cons part ms ih =>
    cases spelled with
    | @member _ _ _ name _ _ _ v _ _ _ lead quoted colon blanks spelled later =>
      have found := t.find?_members name
      rw [readMembers, nextKey_lead lead quoted, fill]
      simp only [found]
      cases known : t.entry? name with
      | none =>
        simp [t.strict]
      | some e =>
        simp only [Option.map_some, e.given_eq, skipColon_colon colon, Except.bind]
        split
        · simp
        · rename_i fresh
          cases meant : e.mean v with
          | none =>
            obtain ⟨fault, failed⟩ := (e.takes draft).fails blanks spelled (by rw [meant]; rfl)
            simp [failed]
          | some x =>
            have read := (e.takes draft).reads blanks spelled (a := e.set draft x) (by rw [meant]; rfl)
            obtain ⟨steps, rfl⟩ : ∃ left, steps = left + 1 := ⟨steps - 1, by
              rw [List.length_cons] at enough
              omega⟩
            simp only [read]
            refine ih later _ _ ?_
            rw [List.length_cons] at enough
            omega

end Objects

/-! ## Reading lists -/

section Lists
variable {start rest left value next : List Char} {first : Bool} {draft d : σ} {v : Value}
  {vs : List Value} {count : Nat}

theorem nextElement_lead (lead : Lead first start value) (spelled : Spelled v value next) :
    nextElement first start = .ok (true, value) := by
  obtain ⟨c, tail, rfl, opens⟩ := spelled.opens
  obtain ⟨bracket, _⟩ := opens.not_end
  unfold nextElement
  cases lead with
  | first blanks =>
    rw [blanks.skip_to opens.dark]
    split
    · contradiction
    · rename_i same
      exact absurd (List.cons.inj same).1 bracket
    · rename_i same
      cases same
      rfl
  | later comma blanks =>
    rw [comma.skip_to (by decide)]
    split
    · contradiction
    · rename_i same
      exact absurd (List.cons.inj same).1 (by decide)
    · rename_i same
      cases same
      rw [if_neg Bool.false_ne_true, if_pos rfl, blanks.skip_to opens.dark]
      split
      · contradiction
      · rename_i same
        exact absurd (List.cons.inj same).1 bracket
      · rfl

theorem nextElement_done (blanks : Blanks start (']' :: rest)) (first : Bool) :
    nextElement first start = .ok (false, ']' :: rest) := by
  rw [nextElement, blanks.skip_to (by decide)]
  rfl

theorem endList_done (blanks : Blanks left (']' :: rest)) : endList left = .ok rest := by
  rw [endList, blanks.skip_to (by decide)]
  rfl

/-- A list does not end before all its elements. -/
theorem endList_more (more : Elements first (v :: vs) left rest) : ∃ fault, endList left = .error fault := by
  cases more with
  | element lead spelled _ =>
    obtain ⟨c, tail, rfl, opens⟩ := spelled.opens
    obtain ⟨bracket, _⟩ := opens.not_end
    unfold endList
    cases lead with
    | first blanks =>
      rw [blanks.skip_to opens.dark]
      split
      · exact ⟨_, rfl⟩
      · rename_i same
        exact absurd (List.cons.inj same).1 bracket
      · split <;> exact ⟨_, rfl⟩
      · exact ⟨_, rfl⟩
    | later comma blanks =>
      rw [comma.skip_to (by decide)]
      split
      · exact ⟨_, rfl⟩
      · rename_i same
        exact absurd (List.cons.inj same).1 (by decide)
      · split <;> exact ⟨_, rfl⟩
      · exact ⟨_, rfl⟩

theorem readElements_spelled (l : Layout σ α) (entries : List (Entry σ))
    (spelled : Elements (count == 0) vs start rest) (draft : σ) :
    (∀ d, fillList entries draft vs = some d → ∃ left,
      readElements l (entries.map Entry.member) count draft start = .ok (d, left) ∧ endList left = .ok rest) ∧
    (fillList entries draft vs = none →
      (∃ stop, readElements l (entries.map Entry.member) count draft start = .error stop) ∨
      ∃ d left fault, readElements l (entries.map Entry.member) count draft start = .ok (d, left) ∧
        endList left = .error fault) := by
  induction entries generalizing start count draft vs with
  | nil =>
    cases vs with
    | nil =>
      cases spelled with
      | done blanks =>
        simp [fillList, readElements, endList_done blanks]
    | cons v vs =>
      obtain ⟨fault, failed⟩ := endList_more spelled
      exact ⟨fun _ filled => (nomatch filled), fun _ => .inr ⟨draft, start, fault, rfl, failed⟩⟩
  | cons e entries ih =>
    rw [List.map_cons, readElements]
    cases spelled with
    | done blanks =>
      rw [nextElement_done blanks, fillList]
      cases e.member.optional with
      | false => simp
      | true => exact ih (.done .none) draft
    | element lead spelled later =>
      rw [nextElement_lead lead spelled, fillList]
      cases meant : e.mean _ with
      | none =>
        obtain ⟨fault, failed⟩ := (e.takes draft).fails .none spelled (by rw [meant]; rfl)
        simp [failed]
      | some x =>
        have read := (e.takes draft).reads .none spelled (a := e.set draft x) (by rw [meant]; rfl)
        have later : Elements (count + 1 == 0) _ _ rest := later
        simp only [read]
        exact ih later (e.set draft x)

end Lists

/-! ## Reading records -/

section Records
variable {start rest left : List Char} {draft d : σ}

theorem closeRecord_ok {close : List Char → Except Fault (List Char)} {leave : List Char → List Char}
    (closed : close left = .ok rest) :
    (∀ a, (l.finish d).toOption = some a → closeRecord l close leave (.ok (d, left)) = .ok (a, rest)) ∧
      ((l.finish d).toOption = none → ∃ f, closeRecord l close leave (.ok (d, left)) = .error f) := by
  unfold closeRecord
  cases finished : l.finish d <;> simp [finished, Except.toOption, closed, Except.map]

theorem closeRecord_unclosed {close : List Char → Except Fault (List Char)} {fault : Fault}
    (unclosed : close left = .error fault) (leave : List Char → List Char) (d : σ) :
    ∃ f, closeRecord l close leave (.ok (d, left)) = .error f := by
  unfold closeRecord
  cases finished : l.finish d <;> simp [finished, unclosed, Except.map]

theorem closeRecord_error (close : List Char → Except Fault (List Char)) (leave : List Char → List Char)
    (stop : Stop) : ∃ f, closeRecord l close leave (.error stop) = .error f := by
  cases stop <;> exact ⟨_, rfl⟩

theorem readRecord_object (found : skipSpace start = '\x7b' :: rest) : readRecord l start =
    closeRecord l endObject leaveObject (readMembers l (rest.length + 1) true l.start rest) := by
  rw [readRecord, found]
  rfl

theorem readRecord_list (found : skipSpace start = '[' :: rest) : readRecord l start =
    closeRecord l endList leaveList (readElements l l.members 0 l.start rest) := by
  rw [readRecord, found]
  rfl

/-- A record is read from a value that means one, and from no other. -/
theorem takes_record (t : Table l) : Takes (readRecord l) t.record? where
  reads {start input v rest a} blanks spelled means := by
    cases spelled with
    | object members =>
      have enough := Nat.lt_succ_of_le (Nat.le_trans (Nat.le_add_left _ _) members.length_le)
      obtain ⟨d, filled, finished⟩ := Option.bind_eq_some_iff.mp means
      have read := (t.readMembers_spelled members enough l.start).1 d filled
      have closed : endObject ('\x7d' :: rest) = .ok rest := rfl
      rw [readRecord_object (blanks.skip_to (by decide)), read]
      exact (closeRecord_ok closed).1 a finished
    | list elements =>
      have elements : Elements (0 == 0) _ _ rest := elements
      obtain ⟨d, filled, finished⟩ := Option.bind_eq_some_iff.mp means
      obtain ⟨left, read, closed⟩ := (readElements_spelled l t.entries elements l.start).1 d filled
      rw [readRecord_list (blanks.skip_to (by decide)), t.members, read]
      exact (closeRecord_ok closed).1 a finished
    | _ => cases means
  fails {start input v rest} blanks spelled means := by
    obtain ⟨c, tail, rfl, found, opens⟩ := spelled.found blanks
    obtain ⟨_, _, _, _, bracket, brace⟩ := opens.kind
    by_cases object : c = '\x7b'
    · obtain ⟨ms, rfl⟩ := brace object
      cases spelled with
      | object members =>
        have enough := Nat.lt_succ_of_le (Nat.le_trans (Nat.le_add_left _ _) members.length_le)
        have read := t.readMembers_spelled members enough l.start
        rw [readRecord_object found]
        cases filled : t.fill l.start ms with
        | none =>
          obtain ⟨stop, failed⟩ := read.2 filled
          rw [failed]
          exact closeRecord_error _ _ stop
        | some d =>
          rw [record?, filled] at means
          have closed : endObject ('\x7d' :: rest) = .ok rest := rfl
          rw [read.1 d filled]
          exact (closeRecord_ok closed).2 means
    · by_cases list : c = '['
      · obtain ⟨vs, rfl⟩ := bracket list
        cases spelled with
        | list elements =>
          have elements : Elements (0 == 0) _ _ rest := elements
          have read := readElements_spelled l t.entries elements l.start
          rw [readRecord_list found, t.members]
          cases filled : fillList t.entries l.start vs with
          | none =>
            obtain ⟨stop, failed⟩ | ⟨d, left, fault, read, failed⟩ := read.2 filled
            · rw [failed]
              exact closeRecord_error _ _ stop
            · rw [read]
              exact closeRecord_unclosed failed _ d
          | some d =>
            rw [record?, filled] at means
            obtain ⟨left, read, closed⟩ := read.1 d filled
            rw [read]
            exact (closeRecord_ok closed).2 means
      · exact readRecord_other found object list

end Records

end Table

/-! ## Documents -/

theorem decode_document {read : Reader α} {mean : Value → Option α} (takes : Takes read mean) {v : Value}
    {text : String} (document : Document v text) :
    (∀ a, mean v = some a → decode read text = .ok a) ∧
      (mean v = none → ∃ message, decode read text = .error message) := by
  obtain ⟨start, rest, blanks, spelled, ended⟩ := document
  have nothing : skipSpace rest = [] := ended.skip
  unfold decode decodeChars
  constructor
  · intro a means
    rw [takes.reads blanks spelled means]
    simp only [nothing]
    rfl
  · intro means
    obtain ⟨fault, failed⟩ := takes.fails blanks spelled means
    rw [failed]
    exact ⟨_, rfl⟩

end EventProbe.Json
