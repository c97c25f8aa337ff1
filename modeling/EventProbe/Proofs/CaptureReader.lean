import EventProbe.Proofs.FileLines
import EventProbe.Proofs.Utf8RoundTrip
import Mathlib.Logic.Relation

/-! A capture file is read exactly if its first line is a header and every other line is blank or a
record; otherwise the first line that is not so is named. The lines are the physical ones, blank ones
counted. So blank lines after the header and the way lines end make no difference to what is read. -/
namespace EventProbe.Capture

structure HeaderLine (line : List UInt8) (header : Header) : Prop where
  text : ∃ text, line = Utf8.encode text ∧
    Json.decode (Json.readRecord Header.layout) text = .ok header
  magic : header.magic = Capture.magic
  version : header.version = Capture.version

/-- A line that may follow the header, with its record if it is not blank. -/
inductive RecordLine : List UInt8 → Option Record → Prop where
  | blank : Text.isBlankText text = true → RecordLine (Utf8.encode text) none
  | record : Text.isBlankText text = false →
      Json.decode (Json.readRecord Record.layout) text = .ok r →
      RecordLine (Utf8.encode text) (some r)

/-- Lines that may follow the header, with the records of those that are not blank. -/
inductive RecordLines : List (List UInt8) → List Record → Prop where
  | nil : RecordLines [] []
  | blank : RecordLine line none → RecordLines rest records → RecordLines (line :: rest) records
  | record : RecordLine line (some r) → RecordLines rest records →
      RecordLines (line :: rest) (r :: records)

/-- Lines that are those of a capture file, with its contents. -/
inductive Accepts : List (List UInt8) → Contents → Prop where
  | intro : HeaderLine first header → RecordLines rest records →
      Accepts (first :: rest) ⟨header, records⟩

/-- The line with this number, counted from one, is the first that is not as it should be. A file
without lines lacks its first one. -/
inductive FirstBad : List (List UInt8) → Nat → Prop where
  | missing : FirstBad [] 1
  | header : (∀ header, ¬ HeaderLine first header) → FirstBad (first :: rest) 1
  | later : HeaderLine first header → (∀ line ∈ good, ∃ found, RecordLine line found) →
      (∀ found, ¬ RecordLine bad found) → FirstBad (first :: (good ++ bad :: rest)) (good.length + 2)

section Lines
variable {line : List UInt8} {lines : List (List UInt8)} {text : String} {number : Nat}
  {records : List Record}

theorem lineText_eq_ok_iff : lineText line = .ok text ↔ line = Utf8.encode text := by
  rw [← Utf8.decode_eq_ok_iff, lineText]
  cases Utf8.decode line <;> simp [Except.mapError]

theorem readHeader_eq_ok_iff {header : Header} :
    readHeader line = .ok header ↔ HeaderLine line header := by
  constructor
  · intro read
    unfold readHeader at read
    cases decoded : lineText line with
    | error fault => rw [decoded] at read; cases read
    | ok text =>
      cases parsed : Json.decode (Json.readRecord Header.layout) text with
      | error reason => simp [decoded, parsed, Except.mapError, bind, Except.bind] at read
      | ok found =>
        simp only [decoded, parsed, Except.mapError, bind, Except.bind, throw, throwThe,
          MonadExceptOf.throw, pure, Except.pure] at read
        split at read
        · cases read
        · rename_i magic
          split at read
          · cases read
          · rename_i version
            cases read
            exact ⟨⟨text, lineText_eq_ok_iff.mp decoded, parsed⟩,
              Decidable.not_not.mp magic, Decidable.not_not.mp version⟩
  · rintro ⟨⟨text, encoded, parsed⟩, magic, version⟩
    simp only [readHeader, lineText_eq_ok_iff.mpr encoded, parsed, magic, version, Except.mapError,
      bind, Except.bind, pure, Except.pure, ne_eq, not_true_eq_false, if_false]

theorem readRecordLine_eq_ok_iff {found : Option Record} :
    readRecordLine line = .ok found ↔ RecordLine line found := by
  constructor
  · intro read
    unfold readRecordLine at read
    cases decoded : lineText line with
    | error fault => rw [decoded] at read; cases read
    | ok text =>
      obtain rfl := lineText_eq_ok_iff.mp decoded
      simp only [decoded, bind, Except.bind, pure, Except.pure] at read
      split at read
      · rename_i blank
        cases read
        exact .blank blank
      · rename_i shown
        cases parsed : Json.decode (Json.readRecord Record.layout) text with
        | error reason => rw [parsed] at read; cases read
        | ok record =>
          rw [parsed] at read
          cases read
          exact .record (Bool.eq_false_iff.mpr shown) parsed
  · intro fits
    cases fits with
    | blank blank =>
      simp only [readRecordLine, lineText_eq_ok_iff.mpr rfl, blank, bind, Except.bind, pure,
        Except.pure, if_true]
    | record shown parsed =>
      simp only [readRecordLine, lineText_eq_ok_iff.mpr rfl, shown, parsed, bind, Except.bind, pure,
        Except.pure, Except.mapError, Bool.false_eq_true, if_false]

/-- Later lines are read in order, after the records found before them. -/
theorem readRecords_eq_ok_iff {earlier : List Record} :
    readRecords lines number earlier = .ok records ↔
      ∃ later, RecordLines lines later ∧ records = earlier.reverse ++ later := by
  -- For all records found earlier, which the reader keeps in reverse.
  induction lines generalizing number earlier with
  | nil =>
    constructor
    · rintro ⟨⟩
      exact ⟨[], .nil, (List.append_nil _).symm⟩
    · rintro ⟨_, ⟨⟩, rfl⟩
      rw [readRecords, List.append_nil]
  | cons line rest ih =>
    have grown : ∀ (r : Record) later, (r :: earlier).reverse ++ later = earlier.reverse ++ r :: later := by
      intro r later
      rw [List.reverse_cons, List.append_assoc, List.singleton_append]
    constructor
    · intro read
      unfold readRecords at read
      split at read
      · cases read
      · rename_i blank
        obtain ⟨later, fits, rfl⟩ := ih.mp read
        exact ⟨later, .blank (readRecordLine_eq_ok_iff.mp blank) fits, rfl⟩
      · rename_i r record
        obtain ⟨later, fits, rfl⟩ := ih.mp read
        exact ⟨r :: later, .record (readRecordLine_eq_ok_iff.mp record) fits, grown r later⟩
    · rintro ⟨later, fits, rfl⟩
      unfold readRecords
      cases fits with
      | blank first fits =>
        rw [readRecordLine_eq_ok_iff.mpr first]
        exact ih.mpr ⟨later, fits, rfl⟩
      | @record _ r _ later first fits =>
        rw [readRecordLine_eq_ok_iff.mpr first]
        exact ih.mpr ⟨later, fits, (grown r later).symm⟩

theorem readRecordLine_eq_error_iff :
    (∃ fault, readRecordLine line = .error fault) ↔ ∀ found, ¬ RecordLine line found := by
  simp only [← readRecordLine_eq_ok_iff]
  cases readRecordLine line <;> simp

/-- The line that is named is not as it should be, and all lines before it are. -/
theorem readRecords_eq_error_iff {named : Nat} {earlier : List Record} :
    (∃ fault, readRecords lines number earlier = .error ⟨named, fault⟩) ↔
      ∃ good bad rest, lines = good ++ bad :: rest ∧ (∀ l ∈ good, ∃ found, RecordLine l found) ∧
        (∀ found, ¬ RecordLine bad found) ∧ named = number + good.length := by
  induction lines generalizing number earlier with
  | nil => simp [readRecords]
  | cons line rest ih =>
    cases read : readRecordLine line with
    | error fault =>
      have bad := readRecordLine_eq_error_iff.mp ⟨fault, read⟩
      simp only [readRecords, read, Except.error.injEq, Malformed.mk.injEq]
      constructor
      · rintro ⟨_, rfl, _⟩
        exact ⟨[], line, rest, rfl, by simp, bad, rfl⟩
      · rintro ⟨good, other, left, split, fine, _, rfl⟩
        cases good with
        | nil => exact ⟨fault, rfl, rfl⟩
        | cons l good =>
          cases split
          obtain ⟨found, fits⟩ := fine line List.mem_cons_self
          exact absurd fits (bad found)
    | ok found =>
      have fits := readRecordLine_eq_ok_iff.mp read
      have later : (∃ fault, readRecords (line :: rest) number earlier = .error ⟨named, fault⟩) ↔
          ∃ good bad left, rest = good ++ bad :: left ∧
            (∀ l ∈ good, ∃ found, RecordLine l found) ∧ (∀ found, ¬ RecordLine bad found) ∧
            named = number + 1 + good.length := by
        unfold readRecords
        cases found <;> rw [read] <;> exact ih
      rw [later]
      constructor
      · rintro ⟨good, bad, left, rfl, fine, wrong, rfl⟩
        refine ⟨line :: good, bad, left, rfl, ?_, wrong, ?_⟩
        · exact List.forall_mem_cons.mpr ⟨⟨found, fits⟩, fine⟩
        · rw [List.length_cons]
          omega
      · rintro ⟨good, bad, left, split, fine, wrong, rfl⟩
        cases good with
        | nil =>
          cases split
          exact absurd fits (wrong found)
        | cons l good =>
          cases split
          refine ⟨good, bad, left, rfl, (List.forall_mem_cons.mp fine).2, wrong, ?_⟩
          rw [List.length_cons]
          omega

theorem read_eq_ok_iff {bytes : List UInt8} {contents : Contents} :
    read bytes = .ok contents ↔ Accepts (fileLines bytes) contents := by
  unfold read
  cases fileLines bytes with
  | nil =>
    constructor <;> intro impossible <;> cases impossible
  | cons first rest =>
    constructor
    · intro read
      dsimp only at read
      split at read
      · cases read
      · rename_i header head
        cases later : readRecords rest 2 [] with
        | error fault => rw [later] at read; cases read
        | ok records =>
          obtain ⟨_, fits, rfl⟩ := readRecords_eq_ok_iff.mp later
          rw [later] at read
          cases read
          exact .intro (readHeader_eq_ok_iff.mp head) fits
    · intro accepted
      cases accepted with
      | intro head fits =>
        have later : readRecords rest 2 [] = .ok _ := readRecords_eq_ok_iff.mpr ⟨_, fits, rfl⟩
        simp only [readHeader_eq_ok_iff.mpr head, later]
        rfl

theorem read_eq_error_iff {bytes : List UInt8} {number : Nat} :
    (∃ fault, read bytes = .error ⟨number, fault⟩) ↔ FirstBad (fileLines bytes) number := by
  unfold read
  cases fileLines bytes with
  | nil =>
    constructor
    · rintro ⟨_, missing⟩
      cases missing
      exact .missing
    · intro bad
      cases bad
      exact ⟨_, rfl⟩
  | cons first rest =>
    cases head : readHeader first with
    | error fault =>
      have bad : ∀ header, ¬ HeaderLine first header := by
        intro header fits
        cases head.symm.trans (readHeader_eq_ok_iff.mpr fits)
      simp only [head]
      constructor
      · rintro ⟨_, named⟩
        cases named
        exact .header bad
      · intro named
        cases named with
        | header => exact ⟨fault, rfl⟩
        | later fits => exact absurd fits (bad _)
    | ok header =>
      have fits := readHeader_eq_ok_iff.mp head
      simp only [head]
      have later : (∃ fault, (readRecords rest 2 []).map (Contents.mk header) =
          .error ⟨number, fault⟩) ↔ ∃ fault, readRecords rest 2 [] = .error ⟨number, fault⟩ := by
        cases readRecords rest 2 [] <;> simp [Except.map]
      refine later.trans (readRecords_eq_error_iff.trans ?_)
      constructor
      · rintro ⟨good, bad, left, rfl, fine, wrong, rfl⟩
        rw [Nat.add_comm]
        exact .later fits fine wrong
      · intro named
        cases named with
        | header bad => exact absurd fits (bad header)
        | later _ fine wrong => exact ⟨_, _, _, rfl, fine, wrong, Nat.add_comm _ _⟩

end Lines

def BlankLine (line : List UInt8) : Prop :=
  0x0A ∉ line ∧ ∃ text, line = Utf8.encode text ∧ Text.isBlankText text = true

/-- The end of a line, after the bytes before it. -/
inductive LineEnd (before : List UInt8) : List UInt8 → Prop where
  | lf : ¬ EndsInReturn before → LineEnd before [0x0A]
  | crlf : LineEnd before [0x0D, 0x0A]

/-- A change to a file that concerns only how its records are spaced. -/
inductive Respaced : List UInt8 → List UInt8 → Prop where
  /-- After the end of a line, a blank line is put in. -/
  | blankLine : BlankLine blank → LineEnd blank ending →
      Respaced (before ++ 0x0A :: after) (before ++ 0x0A :: (blank ++ ending ++ after))
  /-- A line gets the longer end. -/
  | lineEnd : ¬ EndsInReturn before →
      Respaced (before ++ 0x0A :: after) (before ++ 0x0D :: 0x0A :: after)
  /-- The end of the last line is left out. -/
  | lastEnd : LineEnd before ending → Respaced (before ++ ending) before

section Spacing
variable {bytes bytes' rest content before ending : List UInt8} {lines later : List (List UInt8)}
  {contents : Contents}

theorem BlankLine.recordLine (blank : BlankLine line) : RecordLine line none := by
  obtain ⟨_, text, rfl, white⟩ := blank
  exact .blank white

theorem LineEnd.fileLines_eq (ended : LineEnd content ending) (unended : 0x0A ∉ content)
    (rest : List UInt8) : fileLines (content ++ ending ++ rest) = content :: fileLines rest := by
  rw [List.append_assoc]
  cases ended with
  | lf whole => exact fileLines_lf unended whole rest
  | crlf => exact fileLines_crlf unended rest

theorem RecordLine.not_both (blank : RecordLine line none) : ¬ RecordLine line (some r) := by
  intro record
  cases (readRecordLine_eq_ok_iff.mpr blank).symm.trans (readRecordLine_eq_ok_iff.mpr record)

/-- A blank line among later lines adds no record. -/
theorem recordLines_insert (blank : RecordLine line none) {records : List Record} :
    RecordLines (lines ++ line :: later) records ↔ RecordLines (lines ++ later) records := by
  induction lines generalizing records with
  | nil =>
    constructor
    · intro fits
      cases fits with
      | blank _ fits => exact fits
      | record record _ => exact absurd record blank.not_both
    · exact .blank blank
  | cons first lines ih =>
    constructor
    · intro fits
      cases fits with
      | blank here fits => exact .blank here (ih.mp fits)
      | record here fits => exact .record here (ih.mp fits)
    · intro fits
      cases fits with
      | blank here fits => exact .blank here (ih.mpr fits)
      | record here fits => exact .record here (ih.mpr fits)

theorem accepts_insert (some : lines ≠ []) (blank : RecordLine line none) :
    Accepts (lines ++ line :: later) contents ↔ Accepts (lines ++ later) contents := by
  cases lines with
  | nil => exact absurd rfl some
  | cons first lines =>
    constructor
    · rintro ⟨head, fits⟩
      exact .intro head ((recordLines_insert blank).mp fits)
    · rintro ⟨head, fits⟩
      exact .intro head ((recordLines_insert blank).mpr fits)

/-- The lines before the last one are the same whatever ends it, and the last one is there if it is
ended or not empty. -/
theorem exists_before_end (before : List UInt8) : ∃ lines content,
    (∀ ending after, LineEnd before ending →
      fileLines (before ++ ending ++ after) = lines ++ content :: fileLines after) ∧
    (fileLines before = lines ++ [content] ∨ fileLines before = lines ∧ content = []) := by
  obtain ⟨start, content, unended, split⟩ := exists_last_line before
  have alone : fileLines content = [content] ∨ fileLines content = [] ∧ content = [] := by
    cases content with
    | nil => exact .inr ⟨rfl, rfl⟩
    | cons b rest => exact .inl (fileLines_unended (List.cons_ne_nil b rest) unended)
  obtain ⟨rfl, rfl⟩ | rfl := split
  · refine ⟨[], before, ?_, alone⟩
    intro ending after ended
    exact ended.fileLines_eq unended after
  · refine ⟨fileLines (start ++ [0x0A]), content, ?_, ?_⟩
    · intro ending after ended
      have own : LineEnd content ending := by
        cases ended with
        | lf whole =>
          refine .lf fun ⟨front, last⟩ => whole ⟨start ++ 0x0A :: front, ?_⟩
          rw [last, List.append_assoc, List.cons_append]
        | crlf => exact .crlf
      rw [← own.fileLines_eq unended after, ← fileLines_append]
      simp only [List.append_assoc, List.cons_append]
    · rw [fileLines_append start content]
      obtain shown | ⟨empty, rfl⟩ := alone
      · exact .inl (by rw [shown])
      · exact .inr ⟨by rw [empty, List.append_nil], rfl⟩

theorem not_headerLine_nil (header : Header) : ¬ HeaderLine [] header := by
  rintro ⟨⟨text, empty, parsed⟩, _, _⟩
  have nothing : Utf8.decode [] = .ok text := Utf8.decode_eq_ok_iff.mpr empty
  cases nothing
  cases parsed

theorem accepts_blankLine (white : BlankLine blank) (ended : LineEnd blank ending)
    (before after : List UInt8) :
    Accepts (fileLines (before ++ 0x0A :: after)) contents ↔
      Accepts (fileLines (before ++ 0x0A :: (blank ++ ending ++ after))) contents := by
  have some : fileLines (before ++ [0x0A]) ≠ [] := by
    intro nothing
    have cut : Lines (before ++ [0x0A]) [] := lines_iff.mpr nothing.symm
    generalize bytes : before ++ [0x0A] = list at cut
    cases cut
    simp at bytes
  rw [fileLines_append before after, fileLines_append before (_ ++ after),
    ended.fileLines_eq white.1 after]
  exact (accepts_insert some white.recordLine).symm

theorem fileLines_lineEnd (whole : ¬ EndsInReturn before) (after : List UInt8) :
    fileLines (before ++ 0x0A :: after) = fileLines (before ++ 0x0D :: 0x0A :: after) := by
  obtain ⟨lines, content, cut, _⟩ := exists_before_end before
  have lf := cut _ after (.lf whole)
  have crlf := cut _ after .crlf
  rw [List.append_assoc] at lf crlf
  exact lf.trans crlf.symm

theorem accepts_lastEnd (ended : LineEnd before ending) :
    Accepts (fileLines (before ++ ending)) contents ↔ Accepts (fileLines before) contents := by
  obtain ⟨lines, content, cut, last⟩ := exists_before_end before
  have whole := cut ending [] ended
  rw [List.append_nil] at whole
  rw [whole, show fileLines [] = [] from rfl]
  -- The last line is empty or not. An empty one is blank with an end, and without it is no line.
  obtain shown | ⟨rfl, rfl⟩ := last
  · rw [shown]
  · by_cases some : fileLines before = []
    · rw [some, List.nil_append]
      constructor
      · rintro ⟨head, _⟩
        exact absurd head (not_headerLine_nil _)
      · intro accepted
        cases accepted
    · have blank : RecordLine (Utf8.encode "") none := .blank rfl
      have inserted : Accepts (fileLines before ++ [[]]) contents ↔
          Accepts (fileLines before ++ []) contents := accepts_insert some blank
      rwa [List.append_nil] at inserted

theorem Respaced.accepts_iff (same : Respaced bytes bytes') :
    Accepts (fileLines bytes) contents ↔ Accepts (fileLines bytes') contents := by
  cases same with
  | blankLine white ended => exact accepts_blankLine white ended _ _
  | lineEnd whole => rw [fileLines_lineEnd whole]
  | lastEnd ended => exact accepts_lastEnd ended

/-- Files that differ only in blank lines and in how lines end have the same contents. -/
theorem read_respaced (same : Relation.EqvGen Respaced bytes bytes') :
    (read bytes).toOption = (read bytes').toOption := by
  induction same with
  | rel bytes bytes' same =>
    have alike : ∀ contents, read bytes = .ok contents ↔ read bytes' = .ok contents := by
      intro contents
      rw [read_eq_ok_iff, read_eq_ok_iff, same.accepts_iff]
    cases first : read bytes with
    | ok contents => rw [(alike contents).mp first]
    | error fault =>
      cases second : read bytes' with
      | ok contents => cases first.symm.trans ((alike contents).mpr second)
      | error fault' => rfl
  | refl _ => rfl
  | symm _ _ _ ih => exact ih.symm
  | trans _ _ _ _ _ ih ih' => exact ih.trans ih'

end Spacing

/-- What a file is read as, by its only list of lines. -/
theorem read_accepts_exactly (bytes : List UInt8) : ∃ lines,
    (∀ other, Lines bytes other ↔ other = lines) ∧
    (∀ contents, read bytes = .ok contents ↔ Accepts lines contents) ∧
    (∀ number, (∃ fault, read bytes = .error ⟨number, fault⟩) ↔ FirstBad lines number) ∧
    ∀ bytes', Relation.EqvGen Respaced bytes bytes' →
      (read bytes).toOption = (read bytes').toOption :=
  ⟨fileLines bytes, fun _ => lines_iff, fun _ => read_eq_ok_iff, fun _ => read_eq_error_iff,
    fun _ => read_respaced⟩

def briefLines : List UInt8 × List UInt8 :=
  (Utf8.encode
    "\x7b\"magic\":\"inspect-capture\",\"version\":1,\"created_at\":\"2024-01-01T00:00:00Z\"\x7d",
    Utf8.encode "\x7b\"ts\":1,\"source\":\"s\",\"event_type\":3,\"data\":\"x\"\x7d")

/-- A record is read alike right after the header and after a blank line, whatever ends the lines. -/
theorem briefLines_respaced :
    (read (briefLines.1 ++ 0x0A :: briefLines.2)).toOption.map (·.records) = some [⟨1, "s", 3, "x"⟩] ∧
    (read (briefLines.1 ++ 0x0A :: briefLines.2)).toOption =
      (read (briefLines.1 ++ [0x0D] ++ 0x0A :: ([0x20] ++ [0x0A] ++ briefLines.2) ++
        [0x0D, 0x0A])).toOption := by
  obtain ⟨_, _, _, _, alike⟩ := read_accepts_exactly (briefLines.1 ++ 0x0A :: briefLines.2)
  refine ⟨by decide +kernel, alike _ (.trans _ _ _ (.rel _ _ (.lineEnd ?_)) (.trans _ _ _ ?_
    (.symm _ _ (.rel _ _ (.lastEnd .crlf)))))⟩
  · rintro ⟨start, last⟩
    have := congrArg List.getLast? last
    rw [List.getLast?_concat] at this
    revert this
    decide +kernel
  · have white : BlankLine [0x20] := ⟨by decide, " ", by decide +kernel, by decide +kernel⟩
    have ended : LineEnd [0x20] [0x0A] := .lf fun ⟨start, last⟩ => by
      have := congrArg List.getLast? last
      rw [List.getLast?_concat] at this
      cases this
    have inserted : Respaced ((briefLines.1 ++ [0x0D]) ++ 0x0A :: briefLines.2) _ :=
      .blankLine white ended
    rw [List.append_assoc, List.singleton_append] at inserted
    exact .rel _ _ inserted

end EventProbe.Capture
