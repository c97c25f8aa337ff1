import EventProbe.Proofs.CaptureRoundTrip
import EventProbe.Proofs.TornObjects
import Mathlib.Data.List.Basic

/-! A line of a capture file that begins with parts of records, each cut off at some byte, before a
whole record. It is no record, and not blank either: if the bytes are text at all, the first part ends
between two characters, and a record that is cut off there is not read. -/
namespace EventProbe

/-! ## Bytes that begin as a character does -/

namespace Utf8
variable {chars before : List Char} {bytes rest : List UInt8} {b : UInt8}

def encodeChars (chars : List Char) : List UInt8 :=
  chars.flatMap String.utf8EncodeChar

theorem encodeChars_cons (c : Char) (chars : List Char) :
    encodeChars (c :: chars) = String.utf8EncodeChar c ++ encodeChars chars :=
  List.flatMap_cons

theorem utf8EncodeChar_narrow {c : Char} (narrow : b.toNat < 0x80)
    (inside : b ∈ String.utf8EncodeChar c) : String.utf8EncodeChar c = [b] := by
  have code := (mem_utf8EncodeChar narrow).mp inside
  rw [String.utf8EncodeChar, if_pos (by omega), code]
  exact congrArg (· :: []) UInt8.ofNat_toNat

/-- A byte that stands for itself begins a character. -/
theorem exists_split (encoded : encodeChars chars = bytes ++ b :: rest) (narrow : b.toNat < 0x80) :
    ∃ before c after, chars = before ++ c :: after ∧ encodeChars before = bytes ∧
      String.utf8EncodeChar c = [b] ∧ encodeChars after = rest := by
  induction chars generalizing bytes with
  | nil => cases bytes <;> cases encoded
  | cons c chars ih =>
    rw [encodeChars_cons, List.append_eq_append_iff] at encoded
    obtain ⟨between, rfl, later⟩ | ⟨between, first, later⟩ := encoded
    · obtain ⟨before, d, after, rfl, rfl, narrow, rfl⟩ := ih later
      exact ⟨c :: before, d, after, rfl, encodeChars_cons c before, narrow, rfl⟩
    · cases between with
      | nil =>
        have later : encodeChars chars = [] ++ b :: rest := later.symm
        obtain ⟨before, d, after, rfl, empty, narrow, rfl⟩ := ih later
        refine ⟨c :: before, d, after, rfl, ?_, narrow, rfl⟩
        rw [encodeChars_cons, empty, first]
        simp
      | cons d between =>
        obtain ⟨rfl, rfl⟩ := List.cons.inj later
        have inside : b ∈ String.utf8EncodeChar c := by simp [first]
        have alone := utf8EncodeChar_narrow narrow inside
        rw [alone] at first
        obtain ⟨rfl, rfl⟩ : bytes = [] ∧ between = [] := by
          cases bytes with
          | nil => exact ⟨rfl, (List.cons.inj first).2.symm⟩
          | cons e bytes =>
            obtain ⟨_, impossible⟩ := List.cons.inj first
            cases bytes <;> cases impossible
        exact ⟨[], c, chars, rfl, rfl, alone, rfl⟩

theorem exists_parts {text : String} (encoded : encode text = bytes ++ b :: rest)
    (narrow : b.toNat < 0x80) : ∃ before after, text = String.ofList (before ++ after) ∧
      encodeChars before = bytes ∧ encodeChars after = b :: rest := by
  obtain ⟨before, c, after, split, head, code, rfl⟩ := exists_split encoded narrow
  refine ⟨before, c :: after, ?_, head, ?_⟩
  · rw [← split, String.ofList_toList]
  · rw [encodeChars_cons, code, List.singleton_append]

/-- The pieces found before stay in front. -/
theorem scan_append (bytes : List UInt8) (p : Option Pending) (found earlier : List Piece) :
    scan bytes p (found ++ earlier) = earlier.reverse ++ scan bytes p found := by
  induction bytes generalizing p found with
  | nil => cases p <;> simp [scan]
  | cons b rest ih =>
    cases p with
    | none =>
      simp only [scan, ← ih, List.append_assoc]
    | some p =>
      simp only [scan]
      cases continue? p b with
      | none => simp only [← ih, List.append_assoc, List.cons_append]
      | some next => simp only [← ih, List.append_assoc]

theorem scan_encodeChars (chars : List Char) (rest : List UInt8) :
    scan (encodeChars chars ++ rest) none [] = chars.map .char ++ scan rest none [] := by
  induction chars with
  | nil => rfl
  | cons c chars ih =>
    rw [encodeChars_cons, List.append_assoc, scan_char, ← List.nil_append [Piece.char c], scan_append,
      ih]
    rfl

theorem prefix_of_encodeChars (cut : encodeChars before <+: encodeChars chars) : before <+: chars := by
  obtain ⟨rest, whole⟩ := cut
  have mapped : before.map Piece.char <+: chars.map Piece.char := by
    refine ⟨scan rest none [], ?_⟩
    have all := scan_encodeChars chars []
    rw [← scan_encodeChars, whole, ← List.append_nil (encodeChars chars), all]
    exact List.append_nil _
  obtain ⟨start, cut, same⟩ := List.prefix_map_iff.mp mapped
  have injective : before = start := List.map_injective_iff.mpr (fun _ _ => Piece.char.inj) same
  rwa [injective]

end Utf8

namespace Json

/-- Bytes of an object of which a key is begun, after the first bytes of others. -/
inductive IntrudingBytes : List UInt8 → Prop where
  | brace : IntrudingBytes rest → IntrudingBytes (0x7B :: rest)
  | key : b = 0x74 ∨ b = 0x7B → IntrudingBytes (0x7B :: 0x22 :: b :: rest)

theorem IntrudingBytes.head (intruding : IntrudingBytes bytes) : ∃ more, bytes = 0x7B :: more := by
  cases intruding with
  | brace => exact ⟨_, rfl⟩
  | key => exact ⟨_, rfl⟩

theorem exists_head {chars : List Char} {b : UInt8} {rest : List UInt8} (narrow : b.toNat < 0x80)
    (encoded : Utf8.encodeChars chars = b :: rest) :
    ∃ after, chars = Char.ofNat b.toNat :: after ∧ Utf8.encodeChars after = rest := by
  have encoded : Utf8.encodeChars chars = [] ++ b :: rest := encoded
  obtain ⟨before, c, after, rfl, none, code, rfl⟩ := Utf8.exists_split encoded narrow
  have first : before = [] := List.prefix_nil.mp (Utf8.prefix_of_encodeChars (none ▸ List.nil_prefix))
  have same : c.toNat = b.toNat := (Utf8.mem_utf8EncodeChar narrow).mp (code ▸ List.mem_cons_self)
  subst first
  exact ⟨after, by rw [← same, Char.ofNat_toNat]; rfl, rfl⟩

/-- Such bytes, when they are a text, are the text of such an object. -/
theorem IntrudingBytes.intrudes {chars : List Char} {bytes : List UInt8}
    (intruding : IntrudingBytes bytes) (encoded : Utf8.encodeChars chars = bytes) : Intrudes chars := by
  induction intruding generalizing chars with
  | brace _ ih =>
    obtain ⟨after, rfl, inside⟩ := exists_head (by decide) encoded
    exact .brace (ih inside)
  | @key b rest odd =>
    obtain ⟨quoted, rfl, quote⟩ := exists_head (by decide) encoded
    obtain ⟨named, rfl, letter⟩ := exists_head (by decide) quote
    obtain rfl | rfl := odd
    all_goals
      obtain ⟨after, rfl, _⟩ := exists_head (by decide) letter
      exact .key rfl

end Json

namespace Capture

def Record.Fits (r : Record) : Prop :=
  r.ts < wordLimit ∧ r.eventType < 65536

/-- Parts of records one after the other, each from its beginning. -/
def Torn (bytes : List UInt8) : Prop :=
  ∃ parts : List (List UInt8), bytes = parts.flatten ∧
    ∀ part ∈ parts, part ≠ [] ∧ ∃ r : Record, r.Fits ∧ part <+: lineBytes r.json

section Parts
variable {r : Record} {b : UInt8} {bytes part : List UInt8} {parts : List (List UInt8)}

/-- All records begin with the same key. -/
theorem lineBytes_head (r : Record) : ∃ more, lineBytes r.json = 0x7B :: 0x22 :: 0x74 :: more := by
  have text : ∃ more, r.json = '\x7b' :: '"' :: 't' :: more := by
    rw [Record.json, Json.printObject, Json.printMembers_cons]
    exact ⟨_, rfl⟩
  obtain ⟨more, text⟩ := text
  rw [lineBytes, Utf8.encode_ofList, text]
  exact ⟨_, rfl⟩

theorem Torn.nil : Torn [] := ⟨[], rfl, by simp⟩

theorem Torn.append (torn : Torn bytes) (fits : r.Fits) (cut : part <+: lineBytes r.json) :
    Torn (bytes ++ part) := by
  obtain ⟨parts, rfl, begun⟩ := torn
  by_cases empty : part = []
  · exact ⟨parts, by simp [empty], begun⟩
  · refine ⟨parts ++ [part], by simp, ?_⟩
    intro other inside
    obtain old | new := List.mem_append.mp inside
    · exact begun other old
    · rw [List.mem_singleton.mp new]
      exact ⟨empty, r, fits, cut⟩

theorem Torn.head (torn : Torn bytes) (some : bytes ≠ []) : ∃ more, bytes = 0x7B :: more := by
  obtain ⟨parts, rfl, begun⟩ := torn
  cases parts with
  | nil => exact absurd rfl some
  | cons part parts =>
    obtain ⟨filled, r, _, cut⟩ := begun part List.mem_cons_self
    obtain ⟨more, line⟩ := lineBytes_head r
    rw [line] at cut
    obtain rfl | ⟨tail, rfl, _⟩ := List.prefix_cons_iff.mp cut
    · exact absurd rfl filled
    · exact ⟨_, rfl⟩

theorem Torn.shown (torn : Torn bytes) (control : b.toNat < 0x20) : b ∉ bytes := by
  obtain ⟨parts, rfl, begun⟩ := torn
  intro inside
  obtain ⟨part, among, inside⟩ := List.mem_flatten.mp inside
  obtain ⟨_, r, _, cut⟩ := begun part among
  exact not_mem_lineBytes r.json_shown control (cut.subset inside)

theorem Torn.whole (torn : Torn bytes) : 0x0A ∉ bytes ∧ ¬ EndsInReturn bytes := by
  refine ⟨torn.shown (by decide), ?_⟩
  rintro ⟨start, rfl⟩
  exact torn.shown (by decide) (List.mem_append_right start (List.mem_singleton.mpr rfl))

/-- Parts of records are not blank. -/
theorem Torn.not_blank (torn : Torn bytes) (some : bytes ≠ []) : ¬ RecordLine bytes none := by
  intro read
  obtain ⟨more, brace⟩ := torn.head some
  cases read with
  | @blank text white =>
    obtain ⟨after, text', _⟩ := Json.exists_head (by decide) brace
    rw [Text.isBlankText, text'] at white
    cases white

/-- A whole record after parts of others. -/
theorem intruding_parts
    (begun : ∀ part ∈ parts, part ≠ [] ∧ ∃ r : Record, r.Fits ∧ part <+: lineBytes r.json)
    (r : Record) : Json.IntrudingBytes (parts.flatten ++ lineBytes r.json) := by
  induction parts with
  | nil =>
    obtain ⟨more, line⟩ := lineBytes_head r
    rw [List.flatten_nil, List.nil_append, line]
    exact .key (.inl rfl)
  | cons part parts ih =>
    obtain ⟨⟨filled, other, _, cut⟩, begun⟩ := List.forall_mem_cons.mp begun
    have behind := ih begun
    obtain ⟨more, brace⟩ := behind.head
    obtain ⟨line, key⟩ := lineBytes_head other
    rw [List.flatten_cons, List.append_assoc]
    rw [key] at cut
    obtain rfl | ⟨part, rfl, quote⟩ := List.prefix_cons_iff.mp cut
    · exact absurd rfl filled
    obtain rfl | ⟨part, rfl, name⟩ := List.prefix_cons_iff.mp quote
    · exact .brace behind
    obtain rfl | ⟨part, rfl, _⟩ := List.prefix_cons_iff.mp name
    · rw [brace]
      exact .key (.inr rfl)
    · exact .key (.inl rfl)

theorem Record.allBreak (r : Record) : Json.AllBreak Record.layout [
    ("ts", Json.printNatural r.ts), ("source", Json.printText r.source),
    ("event_type", Json.printNatural r.eventType), ("data", Json.printText r.data)] := by
  simp only [Json.AllBreak, List.forall_mem_cons, List.not_mem_nil, false_implies, implies_true,
    and_true]
  refine ⟨?_, ?_, ?_, ?_⟩
  all_goals
    intro m draft found
    cases found
    intro part rest cut intrudes
  · exact (Json.readNatural_breaks "u64" wordLimit r.ts part rest cut intrudes).map
      fun v => { draft with ts := some v }
  · exact (Json.readText_breaks r.source part rest cut intrudes).map
      fun v => { draft with source := some v }
  · exact (Json.readNatural_breaks "u16" 65536 r.eventType part rest cut intrudes).map
      fun v => { draft with eventType := some v }
  · exact (Json.readText_breaks r.data part rest cut intrudes).map
      fun v => { draft with data := some v }

/-- A record that follows parts of others in its line is lost. -/
theorem not_recordLine_of_torn (torn : Torn bytes) (some : bytes ≠ []) (fits : r.Fits)
    (found : Option Record) : ¬ RecordLine (bytes ++ lineBytes r.json) found := by
  cases found with
  | none =>
    exact (torn.append fits List.prefix_rfl).not_blank (List.append_ne_nil_of_left_ne_nil some _)
  | some other =>
    obtain ⟨_ | ⟨part, parts⟩, rfl, begun⟩ := torn
    · exact absurd rfl some
    obtain ⟨⟨filled, first, firstFits, cut⟩, begun⟩ := List.forall_mem_cons.mp begun
    have behind := intruding_parts begun r
    obtain ⟨more, brace⟩ := behind.head
    rw [List.flatten_cons, List.append_assoc]
    generalize line : part ++ (parts.flatten ++ lineBytes r.json) = bytes
    intro read
    cases read with
    | @record text _ _ parsed =>
      -- The first part ends where the brace after it begins.
      rw [brace] at line
      obtain ⟨before, after, rfl, rfl, tail⟩ := Utf8.exists_parts line.symm (by decide)
      rw [lineBytes, Utf8.encode_ofList] at cut
      have begun : before ≠ [] := by
        rintro rfl
        exact filled rfl
      exact Json.decode_torn (Record.fills firstFits.1 firstFits.2) rfl first.allBreak (by simp)
        begun (Utf8.prefix_of_encodeChars cut) (behind.intrudes (tail.trans brace.symm)) _ parsed

end Parts

end Capture

end EventProbe
