import EventProbe.Plugins.Payload
import EventProbe.Proofs.KeyedTokens

/-! Values that were read from the text of event data, with the byte range where they stand there. The
bytes of the range write the value: as a text, or as the digits of a number. -/
namespace EventProbe

def Range.slice (r : Range) (data : List UInt8) : List UInt8 :=
  (data.drop r.start).take r.length

/-- Bytes write a number that fits in a word: digits, with a plus sign before them if that is
allowed. -/
inductive Numeral.Writes : Bool → List UInt8 → Nat → Prop where
  | digits : bytes ≠ [] → (∀ b ∈ bytes, 0x30 ≤ b.toNat ∧ b.toNat ≤ 0x39) →
      bytes.foldl (fun n b => n * 10 + (b.toNat - 0x30)) 0 < wordLimit →
      Writes signed bytes (bytes.foldl (fun n b => n * 10 + (b.toNat - 0x30)) 0)
  | plus : Writes false bytes n → Writes true (0x2B :: bytes) n

/-- Fields whose values stand in the event data as they are shown. -/
def textPaths : List String :=
  ["evt.data", "evt.arg", "payload.data_with_range", "payload.word", "payload.repeated"]

/-- What bytes of event data are to the text of a value that was read there, by the field. -/
inductive Quotes : String → List UInt8 → String → Prop where
  | text : path ∈ textPaths → Quotes path bytes (Utf8.lossy bytes)
  | remaining : Numeral.Writes false bytes n → Quotes "payload.remaining" bytes (toString n)
  | tick : Numeral.Writes true bytes n → Quotes "test.tick" bytes (toString n)

/-- If a value has a range, this lies in the event data and its bytes write the value. -/
def Extracted.Faithful (path : String) (data : List UInt8) (v : Extracted) : Prop :=
  ∀ r, v.range = some r → r.start + r.length ≤ data.length ∧ Quotes path (r.slice data) v.value.shown

/-! ## Places in a text -/

/-- Characters stand in a text at a position in bytes. -/
def Stands (text part : List Char) (start : Nat) : Prop :=
  ∃ before after, text = before ++ part ++ after ∧ start = Utf8.width before

section Places
variable {text part token value word key : List Char} {words before after : List (List Char)}
  {start position index : Nat}

theorem Stands.shift (stands : Stands text part start) (before : List Char) :
    Stands (before ++ text) part (Utf8.width before + start) := by
  obtain ⟨left, after, rfl, rfl⟩ := stands
  exact ⟨before ++ left, after, by simp, (Utf8.width_append before left).symm⟩

theorem stands_whole (text : List Char) : Stands text text 0 :=
  ⟨[], [], by simp, rfl⟩

theorem stands_takeWhile (p : Char → Bool) (text : List Char) : Stands text (text.takeWhile p) 0 :=
  ⟨[], text.dropWhile p, by simp, rfl⟩

theorem Tokens.stands (split : Tokens text (before ++ token :: after)) :
    Stands text token (Utf8.width (textBefore before)) :=
  ⟨textBefore before, textAfter after, split.place, rfl⟩

theorem FirstAssignment.stands (assignment : FirstAssignment text key before value after) :
    Stands text value (Utf8.width (textBefore before) + Utf8.width key + 1) := by
  refine ⟨textBefore before ++ (key ++ ['=']), textAfter after, ?_, ?_⟩
  · rw [assignment.tokens.place]
    simp
  · rw [Utf8.width_append, Utf8.width_append, Nat.add_assoc]
    rfl

theorem nthWord_eq_some (found : Payload.nthWord words index position = some (start, word)) :
    ∃ before after, words = before ++ word :: after ∧
      start = position + Utf8.width (textBefore before) := by
  induction words generalizing index position with
  | nil => cases found
  | cons first rest ih =>
    cases index with
    | zero =>
      simp only [Payload.nthWord] at found
      split at found
      · cases found
      · cases found
        exact ⟨[], rest, rfl, rfl⟩
    | succ index =>
      obtain ⟨before, after, rfl, rfl⟩ := ih found
      refine ⟨first :: before, after, rfl, ?_⟩
      rw [width_textBefore]
      omega

end Places

/-! ## Values read in a place -/

section Values
variable {path : String} {data : List UInt8} {chars part : List Char} {start n : Nat}

theorem faithful_plain (path : String) (data : List UInt8) (value : FieldValue) :
    (Extracted.plain value).Faithful path data := by
  intro r located
  cases located

/-- A range that lies in so many bytes is not cut down. -/
theorem Range.clamped_eq {length size : Nat} (small : size < halfWordLimit)
    (inside : start + length ≤ size) : Range.clamped start length = ⟨start, length⟩ := by
  have greatest : Range.greatest = halfWordLimit - 1 := rfl
  rw [Range.clamped, greatest]
  congr <;> omega

theorem faithful_located {value : FieldValue} {length : Nat} (small : data.length < halfWordLimit)
    (inside : start + length ≤ data.length)
    (quotes : Quotes path ((data.drop start).take length) value.shown) :
    (Extracted.located value start length).Faithful path data := by
  intro r located
  cases located
  rw [Range.clamped_eq small inside]
  exact ⟨inside, quotes⟩

theorem Stands.slice_encode (stands : Stands text.toList part start) :
    start + Utf8.width part ≤ (Utf8.encode text).length ∧
      ((Utf8.encode text).drop start).take (Utf8.width part) = Utf8.encode (String.ofList part) := by
  obtain ⟨before, after, split, rfl⟩ := stands
  constructor
  · rw [Utf8.length_encode, split, Utf8.width_append, Utf8.width_append]
    omega
  · rw [← String.ofList_toList (s := text), split, Utf8.encode_part]

theorem Stands.faithful {value : FieldValue} (stands : Stands text.toList part start)
    (small : (Utf8.encode text).length < halfWordLimit)
    (quotes : Quotes path (Utf8.encode (String.ofList part)) value.shown) :
    (Extracted.located value start (Utf8.width part)).Faithful path (Utf8.encode text) := by
  obtain ⟨inside, slice⟩ := stands.slice_encode
  refine faithful_located small inside ?_
  rwa [slice]

theorem quotes_text (named : path ∈ textPaths) (text : String) :
    Quotes path (Utf8.encode text) (FieldValue.text text).shown := by
  have quotes : Quotes path (Utf8.encode text) _ := .text named
  rwa [Utf8.lossy_encode] at quotes

theorem digit?_eq_some {c : Char} {d : Nat} (digit : Numeral.digit? c = some d) :
    0x30 ≤ c.toNat ∧ c.toNat ≤ 0x39 ∧ d = c.toNat - 0x30 := by
  unfold Numeral.digit? at digit
  split at digit
  · rename_i range
    cases digit
    exact ⟨range.1, range.2, rfl⟩
  · cases digit

theorem encode_narrow (narrow : ∀ c ∈ chars, c.toNat < 0x80) :
    Utf8.encode (String.ofList chars) = chars.map fun c => UInt8.ofNat c.toNat := by
  rw [Utf8.encode_ofList]
  induction chars with
  | nil => rfl
  | cons c rest ih =>
    obtain ⟨here, later⟩ := List.forall_mem_cons.mp narrow
    have single : String.utf8EncodeChar c = [UInt8.ofNat c.toNat] := by
      have small : c.val.toNat ≤ 0x7F := by
        change c.val.toNat < 0x80 at here
        omega
      rw [String.utf8EncodeChar, if_pos small]
      rfl
    rw [List.flatMap_cons, List.map_cons, ih later, single, List.singleton_append]

/-- Digits that are read are the digits of the number they are read as. -/
theorem digits_eq_ok {m : Nat} (read : Numeral.digits chars m = .ok n) :
    (∀ c ∈ chars, 0x30 ≤ c.toNat ∧ c.toNat ≤ 0x39) ∧
      n = chars.foldl (fun n c => n * 10 + (c.toNat - 0x30)) m ∧ (m < wordLimit → n < wordLimit) := by
  induction chars generalizing m with
  | nil =>
    cases read
    exact ⟨by simp, rfl, id⟩
  | cons c rest ih =>
    unfold Numeral.digits at read
    split at read
    · cases read
    · rename_i d digit
      obtain ⟨low, high, rfl⟩ := digit?_eq_some digit
      split at read
      · rename_i fits
        obtain ⟨all, value, bound⟩ := ih read
        exact ⟨List.forall_mem_cons.mpr ⟨⟨low, high⟩, all⟩, value, fun _ => bound fits⟩
      · cases read

theorem writes_digits (signed : Bool) (some : chars ≠ []) (read : Numeral.digits chars 0 = .ok n) :
    Numeral.Writes signed (Utf8.encode (String.ofList chars)) n := by
  obtain ⟨all, value, bound⟩ := digits_eq_ok read
  have byte : ∀ c ∈ chars, (UInt8.ofNat c.toNat).toNat = c.toNat := by
    intro c member
    have := (all c member).2
    rw [UInt8.toNat_ofNat']
    omega
  have narrow : ∀ c ∈ chars, c.toNat < 0x80 := by
    intro c member
    have := (all c member).2
    omega
  have bytes := encode_narrow narrow
  have same : (Utf8.encode (String.ofList chars)).foldl (fun n b => n * 10 + (b.toNat - 0x30)) 0 =
      n := by
    rw [bytes, value, List.foldl_map]
    exact List.foldl_ext _ _ _ fun n c member => by rw [byte c member]
  rw [← same]
  refine .digits ?_ ?_ ?_
  · rw [bytes]
    simpa using some
  · rw [bytes]
    intro b member
    obtain ⟨c, inside, rfl⟩ := List.mem_map.mp member
    rw [byte c inside]
    exact all c inside
  · rw [same]
    exact bound (by decide)

/-- What is read from digits alone has no sign, and as many bytes as digits. -/
theorem writes_digits_read (all : chars.all fun c => (Numeral.digit? c).isSome) (some : chars ≠ [])
    (read : Numeral.read chars = .ok n) : Utf8.width chars = chars.length ∧
      Numeral.Writes false (Utf8.encode (String.ofList chars)) n := by
  have digits : Numeral.digits chars 0 = .ok n := by
    unfold Numeral.read at read
    split at read
    · exact absurd rfl some
    · cases all
    · cases all
    · exact read
  refine ⟨?_, writes_digits false some digits⟩
  have narrow : ∀ c ∈ chars, c.toNat < 0x80 := by
    intro c member
    have := ((digits_eq_ok digits).1 c member).2
    omega
  have bytes := congrArg List.length (encode_narrow narrow)
  rwa [Utf8.length_encode, String.toList_ofList, List.length_map] at bytes

theorem writes_read (read : Numeral.read chars = .ok n) :
    Numeral.Writes true (Utf8.encode (String.ofList chars)) n := by
  unfold Numeral.read at read
  split at read
  · cases read
  · cases read
  · rename_i rest other
    have some : rest ≠ [] := by
      rintro rfl
      exact other rfl
    have plus : Utf8.encode (String.ofList ('+' :: rest)) =
        0x2B :: Utf8.encode (String.ofList rest) := by
      simp only [Utf8.encode_ofList, List.flatMap_cons]
      rfl
    rw [plus]
    exact .plus (writes_digits false some read)
  · rename_i some _ _
    exact writes_digits true some read

end Values

end EventProbe
