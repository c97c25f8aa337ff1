import EventProbe.Proofs.InstantText
import EventProbe.Proofs.TornLines

/-! Records that are written to a sink which may refuse any write. A refused write leaves what the
sink took of the line before, and the next line goes on there. So the records that were written are
read back exactly if every refused write left nothing, and once a line is torn, no later write can
mend the file. -/
namespace EventProbe.Capture

/-! ## Sinks that refuse writes -/

/-- A sink that only adds bytes: a piece that it takes, and at most a part of one that it refuses. -/
structure Sink.Appends (σ : Type) [Sink σ] where
  bytes : σ → List UInt8
  write : ∀ out piece,
    (∃ out', Sink.write out piece = (.ok (), out') ∧ bytes out' = bytes out ++ piece) ∨
    ∃ fault out' part, Sink.write out piece = (.error fault, out') ∧
      part <+: piece ∧ part ≠ piece ∧ bytes out' = bytes out ++ part

/-- A sink that takes each piece as a whole or not at all. -/
structure Sink.Atomic (σ : Type) [Sink σ] where
  bytes : σ → List UInt8
  write : ∀ out piece,
    (∃ out', Sink.write out piece = (.ok (), out') ∧ bytes out' = bytes out ++ piece) ∨
    ∃ fault out', Sink.write out piece = (.error fault, out') ∧ bytes out' = bytes out

/-- A memory refuses a piece as a whole. -/
def Memory.atomic : Sink.Atomic Memory where
  bytes := Memory.bytes
  write m piece := by
    by_cases full : m.refuses [.everything, if piece = [0x0A] then .lineEnds else .texts] = true
    · exact .inr ⟨_, m, if_pos full, rfl⟩
    · exact .inl ⟨_, if_neg full, by simp [Memory.bytes]⟩

/-- A sink that is given every piece in fragments, up to the first that it refuses. -/
structure Fragmented (cut : List UInt8 → List (List UInt8)) (σ : Type) where
  out : σ

def writeFragments [Sink σ] : σ → List (List UInt8) → Except IoFault Unit × σ
  | out, [] => (.ok (), out)
  | out, fragment :: fragments =>
    match Sink.write out fragment with
    | (.error fault, out) => (.error fault, out)
    | (.ok _, out) => writeFragments out fragments

instance [Sink σ] {cut : List UInt8 → List (List UInt8)} : Sink (Fragmented cut σ) where
  write s piece := ((writeFragments s.out (cut piece)).1, ⟨(writeFragments s.out (cut piece)).2⟩)
  flush s := ((Sink.flush s.out).1, ⟨(Sink.flush s.out).2⟩)

section Fragments
variable {σ : Type} [Sink σ] {cut : List UInt8 → List (List UInt8)}

theorem Fragmented.write_eq (s : Fragmented cut σ) (piece : List UInt8) : Sink.write s piece =
    ((writeFragments s.out (cut piece)).1, ⟨(writeFragments s.out (cut piece)).2⟩) := rfl

theorem Sink.Atomic.writeFragments_cases (atomic : Sink.Atomic σ) (out : σ)
    (fragments : List (List UInt8)) :
    (∃ out', writeFragments out fragments = (.ok (), out') ∧
      atomic.bytes out' = atomic.bytes out ++ fragments.flatten) ∨
    ∃ fault out' before fragment after, writeFragments out fragments = (.error fault, out') ∧
      fragments = before ++ fragment :: after ∧
      atomic.bytes out' = atomic.bytes out ++ before.flatten := by
  induction fragments generalizing out with
  | nil => exact .inl ⟨out, rfl, by simp⟩
  | cons fragment fragments ih =>
    obtain ⟨inside, took, here⟩ | ⟨fault, out', refused, same⟩ := atomic.write out fragment
    · rw [writeFragments, took]
      obtain ⟨out', all, bytes⟩ | ⟨fault, out', before, other, after, stopped, rfl, bytes⟩ := ih inside
      · exact .inl ⟨out', all, by rw [bytes, here, List.flatten_cons, List.append_assoc]⟩
      · exact .inr ⟨fault, out', fragment :: before, other, after, stopped, rfl,
          by rw [bytes, here, List.flatten_cons, List.append_assoc]⟩
    · rw [writeFragments, refused]
      exact .inr ⟨fault, out', [], fragment, fragments, rfl, rfl, by simp [same]⟩

/-- Where whole pieces may be refused, a part of them may be left if they are given in fragments. -/
def Sink.Atomic.fragmented (atomic : Sink.Atomic σ) (cut : List UInt8 → List (List UInt8))
    (whole : ∀ piece, (cut piece).flatten = piece) (filled : ∀ piece, [] ∉ cut piece) :
    Sink.Appends (Fragmented cut σ) where
  bytes s := atomic.bytes s.out
  write s piece := by
    obtain ⟨out', all, bytes⟩ | ⟨fault, out', before, fragment, after, stopped, split, bytes⟩ :=
      atomic.writeFragments_cases s.out (cut piece)
    · refine .inl ⟨⟨out'⟩, by rw [Fragmented.write_eq, all], ?_⟩
      rw [bytes, whole]
    · have joined : piece = before.flatten ++ (fragment ++ after.flatten) := by
        rw [← whole piece, split, List.flatten_append, List.flatten_cons]
      refine .inr ⟨fault, ⟨out'⟩, before.flatten, by rw [Fragmented.write_eq, stopped],
        ⟨_, joined.symm⟩, ?_, bytes⟩
      intro all
      rw [all] at joined
      obtain ⟨nothing, _⟩ := List.append_eq_nil_iff.mp (List.self_eq_append_right.mp joined)
      exact filled piece (split ▸ nothing ▸ List.mem_append_right before List.mem_cons_self)

end Fragments

/-! ## Attempts -/

structure Attempt (σ : Type) where
  writer : Writer σ
  record : Record

section Attempts
variable {σ : Type} [Sink σ]

def Attempt.after (a : Attempt σ) : Writer σ :=
  (a.writer.write a.record).2

def Attempt.succeeds (a : Attempt σ) : Bool :=
  (a.writer.write a.record).1.isOk

/-- The attempts to write some records in order, whatever the writer answers. -/
def Writer.attempts : Writer σ → List Record → List (Attempt σ)
  | _, [] => []
  | w, r :: records => ⟨w, r⟩ :: (Attempt.after ⟨w, r⟩).attempts records

def Writer.attemptAll : Writer σ → List Record → Writer σ
  | w, [] => w
  | w, r :: records => (Attempt.after ⟨w, r⟩).attemptAll records

def saved (attempts : List (Attempt σ)) : List Record :=
  (attempts.filter (·.succeeds)).map (·.record)

/-- An attempt that fails after the sink took a part of its line. -/
structure Sink.Appends.Tears (sink : Sink.Appends σ) (a : Attempt σ) : Prop where
  failed : a.succeeds = false
  left : sink.bytes a.after.out ≠ sink.bytes a.writer.out

/-- The bytes that attempts add to those of the sink. -/
inductive Sink.Appends.Adds (sink : Sink.Appends σ) : List (Attempt σ) → List UInt8 → Prop where
  | nil : sink.Adds [] []
  | line {a : Attempt σ} {later : List (Attempt σ)} {tail : List UInt8} :
      a.succeeds = true → sink.Adds later tail →
      sink.Adds (a :: later) (lineBytes a.record.json ++ [0x0A] ++ tail)
  | part {a : Attempt σ} {later : List (Attempt σ)} {part tail : List UInt8} :
      a.succeeds = false → part <+: lineBytes a.record.json → (sink.Tears a ↔ part ≠ []) →
      sink.Adds later tail → sink.Adds (a :: later) (part ++ tail)

variable {sink : Sink.Appends σ} {w : Writer σ} {a b : Attempt σ} {r : Record}
  {records : List Record} {attempts : List (Attempt σ)} {before line tail : List UInt8}
  {rest : List (List UInt8)}

theorem saved_cons_of_succeeds (succeeds : a.succeeds = true) :
    saved (a :: attempts) = a.record :: saved attempts := by
  rw [saved, List.filter_cons_of_pos succeeds, List.map_cons, saved]

theorem saved_cons_of_fails (failed : a.succeeds = false) : saved (a :: attempts) = saved attempts := by
  rw [saved, List.filter_cons_of_neg (by simp [failed]), saved]

theorem writeLine_cases (sink : Sink.Appends σ) (out : σ) (text : List Char) :
    (∃ out', writeLine out text = (.ok (), out') ∧
      sink.bytes out' = sink.bytes out ++ (lineBytes text ++ [0x0A])) ∨
    ∃ fault out' part, writeLine out text = (.error fault, out') ∧ part <+: lineBytes text ∧
      sink.bytes out' = sink.bytes out ++ part := by
  rw [writeLine, ← lineBytes]
  obtain ⟨inside, took, bytes⟩ | ⟨fault, out', part, refused, cut, _, bytes⟩ :=
    sink.write out (lineBytes text)
  · rw [took]
    obtain ⟨out', took, ended⟩ | ⟨fault, out', part, refused, cut, proper, ended⟩ :=
      sink.write inside [0x0A]
    · simp only [took]
      exact .inl ⟨out', rfl, by rw [ended, bytes, List.append_assoc]⟩
    · obtain rfl : part = [] :=
        (List.prefix_concat_iff.mp cut).elim (absurd · proper) List.prefix_nil.mp
      simp only [refused]
      exact .inr ⟨.io fault, out', lineBytes text, rfl, List.prefix_rfl,
        by rw [ended, bytes, List.append_nil]⟩
  · rw [refused]
    exact .inr ⟨.text fault, out', part, rfl, cut, bytes⟩

/-- A record is written as a line, and counted; or a part of it is, and it is not counted. -/
theorem Attempt.cases (sink : Sink.Appends σ) (a : Attempt σ) :
    (a.succeeds = true ∧ a.after.written = a.writer.written + 1 ∧
      sink.bytes a.after.out = sink.bytes a.writer.out ++ (lineBytes a.record.json ++ [0x0A])) ∨
    (a.succeeds = false ∧ a.after.written = a.writer.written ∧ ∃ part, part <+: lineBytes a.record.json ∧
      sink.bytes a.after.out = sink.bytes a.writer.out ++ part) := by
  unfold succeeds after Writer.write
  obtain ⟨out', took, bytes⟩ | ⟨fault, out', part, stopped, cut, bytes⟩ :=
    writeLine_cases sink a.writer.out a.record.json
  · rw [took]
    exact .inl ⟨rfl, rfl, bytes⟩
  · rw [stopped]
    exact .inr ⟨rfl, rfl, part, cut, bytes⟩

theorem Writer.written_attemptAll (sink : Sink.Appends σ) (w : Writer σ) (records : List Record) :
    (w.attemptAll records).written = w.written + (saved (w.attempts records)).length := by
  induction records generalizing w with
  | nil => rfl
  | cons r records ih =>
    rw [attemptAll, attempts, ih]
    obtain ⟨succeeds, counted, _⟩ | ⟨failed, same, _⟩ := Attempt.cases sink ⟨w, r⟩
    · rw [saved_cons_of_succeeds succeeds, counted, List.length_cons, Nat.add_assoc, Nat.add_comm 1]
    · rw [saved_cons_of_fails failed, same]

theorem Writer.adds_attempts (sink : Sink.Appends σ) (w : Writer σ) (records : List Record) :
    ∃ tail, sink.bytes (w.attemptAll records).out = sink.bytes w.out ++ tail ∧
      sink.Adds (w.attempts records) tail := by
  induction records generalizing w with
  | nil => exact ⟨[], by rw [attemptAll, List.append_nil], .nil⟩
  | cons r records ih =>
    obtain ⟨tail, bytes, adds⟩ := ih (Attempt.after ⟨w, r⟩)
    obtain ⟨succeeds, _, here⟩ | ⟨failed, _, part, cut, here⟩ := Attempt.cases sink ⟨w, r⟩
    · exact ⟨_, by rw [attemptAll, bytes, here, List.append_assoc], .line succeeds adds⟩
    · refine ⟨_, by rw [attemptAll, bytes, here, List.append_assoc], .part failed cut ?_ adds⟩
      constructor
      · rintro ⟨_, left⟩ rfl
        exact left (here.trans (List.append_nil _))
      · intro some
        exact ⟨failed, fun same => some (List.append_right_eq_self.mp (here.symm.trans same))⟩

/-! ## What is read back -/

theorem fileLines_line (torn : Torn before) (fits : r.Fits) (tail : List UInt8) :
    fileLines (before ++ (lineBytes r.json ++ [0x0A] ++ tail)) =
      (before ++ lineBytes r.json) :: fileLines tail := by
  obtain ⟨unended, own⟩ := (torn.append fits List.prefix_rfl).whole
  rw [← fileLines_lf unended own]
  simp

theorem recordLines_cons (here : RecordLine line (some r)) {records : List Record} :
    RecordLines (line :: rest) (r :: records) ↔ RecordLines rest records := by
  constructor
  · intro fits
    cases fits with
    | blank blank _ => exact absurd here blank.not_both
    | record _ later => exact later
  · exact .record here

theorem not_recordLines_cons (bad : ∀ found, ¬ RecordLine line found) :
    ¬ RecordLines (line :: rest) records := by
  rintro (_ | ⟨here, _⟩ | ⟨here, _⟩)
  · exact bad _ here
  · exact bad _ here

theorem accepts_cons {contents : Contents} : Accepts (line :: rest) contents ↔
    HeaderLine line contents.header ∧ RecordLines rest contents.records := by
  constructor
  · rintro ⟨header, fits⟩
    exact ⟨header, fits⟩
  · rintro ⟨header, fits⟩
    exact .intro header fits

theorem recordLines_torn (torn : Torn before) : RecordLines (fileLines before) [] ↔ before = [] := by
  constructor
  · intro fits
    by_cases nothing : before = []
    · exact nothing
    · rw [fileLines_unended nothing torn.whole.1] at fits
      cases fits with
      | blank blank _ => exact absurd blank (torn.not_blank nothing)
  · rintro rfl
    exact .nil

/-- The lines of some attempts, after what earlier ones left of theirs, are the saved records only if
nothing is left of the others. -/
theorem Sink.Appends.Adds.recordLines (adds : sink.Adds attempts tail)
    (fit : ∀ a ∈ attempts, a.record.Fits) (torn : Torn before) :
    RecordLines (fileLines (before ++ tail)) (saved attempts) ↔
      before = [] ∧ ∀ a ∈ attempts, ¬ sink.Tears a := by
  -- The present line is torn already, by earlier attempts, when `before` is not empty.
  induction adds generalizing before with
  | nil =>
    rw [List.append_nil, saved]
    simpa using recordLines_torn torn
  | @line a later tail succeeds _ ih =>
    obtain ⟨fits, fit⟩ := List.forall_mem_cons.mp fit
    have whole : ¬ sink.Tears a := fun tears => by cases succeeds.symm.trans tears.failed
    rw [fileLines_line torn fits, saved_cons_of_succeeds succeeds, List.forall_mem_cons]
    by_cases nothing : before = []
    · subst nothing
      rw [List.nil_append, recordLines_cons (recordLine_json fits.1 fits.2), ← List.nil_append tail,
        ih fit .nil]
      simp only [true_and, whole, not_false_eq_true]
    · exact iff_of_false (not_recordLines_cons (not_recordLine_of_torn torn nothing fits))
        fun clean => nothing clean.1
  | @part a part later tail failed cut tears _ ih =>
    obtain ⟨fits, fit⟩ := List.forall_mem_cons.mp fit
    rw [← List.append_assoc, saved_cons_of_fails failed, ih fit (torn.append fits cut),
      List.append_eq_nil_iff, List.forall_mem_cons, tears, not_not, and_assoc]

/-- Once a line is torn, the next record that is written goes on in it, and makes it no record. -/
theorem Sink.Appends.Adds.unreadable (adds : sink.Adds attempts tail)
    (fit : ∀ a ∈ attempts, a.record.Fits) (torn : Torn before) (some : before ≠ [])
    (inside : b ∈ attempts) (succeeds : b.succeeds = true) :
    ¬ RecordLines (fileLines (before ++ tail)) records := by
  induction adds generalizing before with
  | nil => cases inside
  | line _ _ _ =>
    obtain ⟨fits, _⟩ := List.forall_mem_cons.mp fit
    rw [fileLines_line torn fits]
    exact not_recordLines_cons (not_recordLine_of_torn torn some fits)
  | part failed cut _ _ ih =>
    obtain ⟨fits, fit⟩ := List.forall_mem_cons.mp fit
    obtain rfl | inside := List.mem_cons.mp inside
    · cases succeeds.symm.trans failed
    · rw [← List.append_assoc]
      exact ih fit (torn.append fits cut) (List.append_ne_nil_of_left_ne_nil some _) inside

theorem Sink.Appends.Adds.unreadable_of_tears (adds : sink.Adds attempts tail)
    (fit : ∀ a ∈ attempts, a.record.Fits) (torn : Torn before) (tears : sink.Tears a)
    (succeeds : b.succeeds = true) (follows : [a, b].Sublist attempts) :
    ¬ RecordLines (fileLines (before ++ tail)) records := by
  induction adds generalizing before records with
  | nil => cases follows
  | line whole _ ih =>
    obtain ⟨fits, others⟩ := List.forall_mem_cons.mp fit
    rw [fileLines_line torn fits]
    cases follows with
    | cons _ follows =>
      rintro (_ | ⟨_, later⟩ | ⟨_, later⟩)
      · exact ih others .nil follows later
      · exact ih others .nil follows later
    | cons_cons => cases whole.symm.trans tears.failed
  | part failed cut left adds ih =>
    obtain ⟨fits, others⟩ := List.forall_mem_cons.mp fit
    rw [← List.append_assoc]
    cases follows with
    | cons _ follows => exact ih others (torn.append fits cut) follows
    | cons_cons _ follows =>
      exact adds.unreadable others (torn.append fits cut)
        (List.append_ne_nil_of_right_ne_nil _ (left.mp tears)) (List.singleton_sublist.mp follows)
        succeeds

theorem Writer.record_of_mem_attempts (inside : a ∈ w.attempts records) : a.record ∈ records := by
  induction records generalizing w with
  | nil => cases inside
  | cons r records ih =>
    obtain rfl | inside := List.mem_cons.mp inside
    · exact List.mem_cons_self
    · exact List.mem_cons_of_mem r (ih inside)

theorem Writer.start_bytes (sink : Sink.Appends σ) {out : σ} {createdAt : Instant}
    (started : Writer.start out createdAt = .ok w) : w.written = 0 ∧
      sink.bytes w.out = sink.bytes out ++ (lineBytes (Header.current createdAt).json ++ [0x0A]) := by
  unfold Writer.start at started
  obtain ⟨out', took, bytes⟩ | ⟨fault, out', _, stopped, _⟩ :=
    writeLine_cases sink out (Header.current createdAt).json
  · rw [took] at started
    cases started
    exact ⟨rfl, bytes⟩
  · rw [stopped] at started
    cases started

/-- What becomes of a capture when writes are refused. A failed write is not counted. The records that
were written are read back exactly if no failed write left a part of its line; and after one that did,
another record that is written leaves a file that is not read at all. -/
theorem refused_writes (sink : Sink.Appends σ) {out : σ} (empty : sink.bytes out = [])
    {createdAt : Instant} (there : createdAt.Exists)
    (started : Writer.start out createdAt = .ok w) (records : List Record)
    (fit : ∀ r ∈ records, r.Fits) :
    (∀ a ∈ w.attempts records,
      a.after.written = a.writer.written + if a.succeeds then 1 else 0) ∧
    (w.attemptAll records).written = (saved (w.attempts records)).length ∧
    (read (sink.bytes (w.attemptAll records).out) =
        .ok ⟨⟨"inspect-capture", 1, createdAt⟩, saved (w.attempts records)⟩ ↔
      ∀ a ∈ w.attempts records, ¬ sink.Tears a) ∧
    ∀ a b, [a, b].Sublist (w.attempts records) → sink.Tears a → b.succeeds = true →
      ∃ fault, read (sink.bytes (w.attemptAll records).out) = .error fault := by
  obtain ⟨none, header⟩ := Writer.start_bytes sink started
  obtain ⟨tail, bytes, adds⟩ := w.adds_attempts sink records
  have fit : ∀ a ∈ w.attempts records, a.record.Fits := fun a inside =>
    fit a.record (Writer.record_of_mem_attempts inside)
  have lines : fileLines (sink.bytes (w.attemptAll records).out) =
      lineBytes (Header.current createdAt).json :: fileLines tail := by
    obtain ⟨unended, own⟩ := lineBytes_whole (Header.json_shown (Header.current createdAt))
    rw [bytes, header, empty, List.nil_append, List.append_assoc, List.singleton_append,
      fileLines_lf unended own]
  refine ⟨?_, ?_, ?_, ?_⟩
  · intro a _
    obtain ⟨succeeds, counted, _⟩ | ⟨failed, same, _⟩ := Attempt.cases sink a
    · rw [counted, if_pos succeeds]
    · rw [same, if_neg (by simp [failed]), Nat.add_zero]
  · rw [w.written_attemptAll sink, none, Nat.zero_add]
  · have told := adds.recordLines fit .nil
    rw [List.nil_append] at told
    have head : HeaderLine (lineBytes (Header.current createdAt).json) (Header.current createdAt) :=
      headerLine_json (there.read_text .shortest) rfl rfl
    rw [read_eq_ok_iff, lines, accepts_cons]
    constructor
    · intro accepted
      exact (told.mp accepted.2).2
    · intro clean
      exact ⟨head, told.mpr ⟨rfl, clean⟩⟩
  · intro a b follows tears succeeds
    cases answer : read (sink.bytes (w.attemptAll records).out) with
    | error fault => exact ⟨fault, rfl⟩
    | ok contents =>
      rw [read_eq_ok_iff, lines, accepts_cons, ← List.nil_append tail] at answer
      exact absurd answer.2 (adds.unreadable_of_tears fit .nil tears succeeds follows)

end Attempts

/-- A sink in memory with its next answers, after which it takes everything. -/
structure Fickle where
  bytes : List UInt8
  answers : List Bool

instance : Sink Fickle where
  write s piece :=
    match s.answers with
    | false :: answers => (.error (.other "sink full"), ⟨s.bytes, answers⟩)
    | answers => (.ok (), ⟨s.bytes ++ piece, answers.tail⟩)
  flush s := (.ok (), s)

def Fickle.atomic : Sink.Atomic Fickle where
  bytes := Fickle.bytes
  write := by
    rintro ⟨bytes, _ | ⟨_ | _, answers⟩⟩ piece
    · exact .inl ⟨_, rfl, rfl⟩
    · exact .inr ⟨_, _, rfl, rfl⟩
    · exact .inl ⟨_, rfl, rfl⟩

def headAndRest : List UInt8 → List (List UInt8)
  | [] => []
  | [b] => [[b]]
  | b :: c :: rest => [[b], c :: rest]

/-- A fickle sink that is given the first byte of each piece before the rest. -/
def interrupted : Sink.Appends (Fragmented headAndRest Fickle) :=
  Fickle.atomic.fragmented headAndRest
    (by rintro (_ | ⟨b, _ | ⟨c, rest⟩⟩) <;> simp [headAndRest])
    (by rintro (_ | ⟨b, _ | ⟨c, rest⟩⟩) <;> simp [headAndRest])

def letters : List Record :=
  [⟨1, "s", 1, "a"⟩, ⟨2, "s", 2, "b"⟩, ⟨3, "s", 3, "c"⟩]

theorem exists_ok_of_any {result : Except ε α} {p : α → Prop} [DecidablePred p]
    (found : result.toOption.any (fun a => decide (p a)) = true) : ∃ a, result = .ok a ∧ p a := by
  cases result with
  | error => cases found
  | ok a => exact ⟨a, rfl, of_decide_eq_true found⟩

/-- Three records, each of them written as its brace, its rest and its line end. The rest of the second
one is refused. -/
theorem torn_record_unreadable : ∃ w : Writer (Fragmented headAndRest Fickle),
    Writer.start ⟨⟨[], [true, true, true, true, true, true, true, false]⟩⟩ ⟨0, 0⟩ = .ok w ∧
    (w.attemptAll letters).written = 2 ∧
    saved (w.attempts letters) = [⟨1, "s", 1, "a"⟩, ⟨3, "s", 3, "c"⟩] ∧
    ∃ fault, read (interrupted.bytes (w.attemptAll letters).out) = .error fault := by
  obtain ⟨w, started, told, kept⟩ : ∃ w : Writer (Fragmented headAndRest Fickle),
      Writer.start ⟨⟨[], [true, true, true, true, true, true, true, false]⟩⟩ ⟨0, 0⟩ = .ok w ∧
      ((w.attempts letters).map fun a =>
        (a.succeeds, decide (interrupted.bytes a.after.out = interrupted.bytes a.writer.out))) =
          [(true, false), (false, false), (true, false)] ∧
      saved (w.attempts letters) = [⟨1, "s", 1, "a"⟩, ⟨3, "s", 3, "c"⟩] :=
    exists_ok_of_any (by decide +kernel)
  obtain ⟨first, second, third, split⟩ : ∃ a b c, w.attempts letters = [a, b, c] := ⟨_, _, _, rfl⟩
  have there : (⟨0, 0⟩ : Instant).Exists := rfl
  obtain ⟨_, counted, _, lost⟩ := refused_writes interrupted rfl there started letters
    (by simp [letters, Record.Fits, wordLimit])
  rw [kept] at counted
  simp only [split, List.map_cons, List.map_nil, List.cons.injEq, Prod.mk.injEq,
    decide_eq_false_iff_not] at told
  obtain ⟨_, ⟨failed, left⟩, ⟨succeeds, _⟩, _⟩ := told
  have follows : [second, third].Sublist (w.attempts letters) := by
    rw [split]
    exact List.sublist_cons_self first _
  exact ⟨w, started, counted, kept, lost second third follows ⟨failed, left⟩ succeeds⟩

/-- Line ends are refused after the header. The first record is read back though its write failed, and
after the second one nothing is read. -/
theorem refused_line_ends : ∃ w, Writer.start (⟨[], some (1, .lineEnds)⟩ : Memory) ⟨0, 0⟩ = .ok w ∧
    saved (w.attempts letters) = [] ∧ (w.attemptAll letters).written = 0 ∧
    (read (Memory.atomic.bytes w.out)).toOption.map (·.records) = some [] ∧
    (read (Memory.atomic.bytes (w.attemptAll (letters.take 1)).out)).toOption.map (·.records) =
      some (letters.take 1) ∧
    (read (Memory.atomic.bytes (w.attemptAll (letters.take 2)).out)).toOption = none :=
  exists_ok_of_any (by decide +kernel)

end EventProbe.Capture
