import EventProbe.Capture.Write
import EventProbe.Proofs.CaptureReader
import EventProbe.Proofs.JsonRoundTrip

/-! A capture file that was written to a sink without faults is read back as the records that were
written. Each line holds one header or record, since control characters are escaped, and is read as
what it holds. -/
namespace EventProbe.Capture

/-- A sink that takes every piece, in the states that are `good`, and the bytes it took. -/
structure Sink.Unfailing (σ : Type) [Sink σ] where
  good : σ → Prop
  bytes : σ → List UInt8
  write : ∀ {out}, good out → ∀ piece, ∃ out', Sink.write out piece = (.ok (), out') ∧ good out' ∧
    bytes out' = bytes out ++ piece
  flush : ∀ {out}, good out → ∃ out', Sink.flush out = (.ok (), out') ∧ good out' ∧
    bytes out' = bytes out

def Memory.unfailing : Sink.Unfailing Memory where
  good m := m.capacity = none
  bytes := Memory.bytes
  write {m} good piece := by
    refine ⟨{ m with pieces := piece :: m.pieces }, ?_, good, ?_⟩
    · simp [Sink.write, Memory.refuses, good]
    · simp [Memory.bytes]
  flush {m} good := ⟨m, by simp [Sink.flush, Memory.refuses, good], good, rfl⟩

/-- Writes records in order, up to the first that is refused. -/
def Writer.writeAll [Sink σ] : Writer σ → List Record → Except WriteFault (Writer σ)
  | w, [] => .ok w
  | w, r :: records =>
    match w.write r with
    | (.error fault, _) => .error fault
    | (.ok _, w) => w.writeAll records

/-! ## Lines -/

def lineBytes (text : List Char) : List UInt8 :=
  Utf8.encode (String.ofList text)

section Lines
variable {text : List Char} {b : UInt8} {lines : List (List UInt8)} {header : Header} {r : Record}

theorem not_mem_lineBytes (shown : ∀ c ∈ text, 0x20 ≤ c.toNat) (control : b.toNat < 0x20) :
    b ∉ lineBytes text := by
  intro inside
  rw [lineBytes, Utf8.encode, String.toList_ofList] at inside
  obtain ⟨c, printed, coded⟩ := List.mem_flatMap.mp inside
  have same : c.toNat = b.toNat := (Utf8.mem_utf8EncodeChar (by omega)).mp coded
  have := shown c printed
  omega

theorem Header.json_shown (h : Header) : ∀ c ∈ h.json, 0x20 ≤ c.toNat := by
  intro c printed
  refine Json.printObject_shown ?_ printed
  simp only [List.forall_mem_cons, List.not_mem_nil, false_implies, implies_true, and_true]
  exact ⟨fun _ => Json.printText_shown, fun _ => Json.printNatural_shown,
    fun _ => Json.printText_shown⟩

theorem Record.json_shown (r : Record) : ∀ c ∈ r.json, 0x20 ≤ c.toNat := by
  intro c printed
  refine Json.printObject_shown ?_ printed
  simp only [List.forall_mem_cons, List.not_mem_nil, false_implies, implies_true, and_true]
  exact ⟨fun _ => Json.printNatural_shown, fun _ => Json.printText_shown,
    fun _ => Json.printNatural_shown, fun _ => Json.printText_shown⟩

theorem readInstant_printText {instant : Instant} {s : String} (readable : Instant.read s = .ok instant)
    (rest : List Char) : readInstant (Json.printText s ++ rest) = .ok (instant, rest) := by
  unfold readInstant
  apply Json.readTextAs_printText
  rw [readable]
  rfl

theorem headerLine_json
    (readable : Instant.read (header.createdAt.text .shortest) = .ok header.createdAt)
    (magic : header.magic = Capture.magic) (version : header.version = Capture.version) :
    HeaderLine (lineBytes header.json) header := by
  have small : header.version < halfWordLimit := by rw [version]; decide
  have word : header.version < wordLimit := by rw [version]; decide
  refine ⟨⟨_, rfl, ?_⟩, magic, version⟩
  refine Json.decode_printObject
    (?_ : Json.Fills _ _ _ ⟨some header.magic, some header.version, some header.createdAt⟩) rfl
  apply Json.Fills.cons rfl rfl
  · intro rest _
    simp only [Json.readText_printText, Except.map]
    rfl
  apply Json.Fills.cons rfl rfl
  · intro rest ended
    simp only [Json.readNatural_printNatural small word ended, Except.map]
    rfl
  apply Json.Fills.cons rfl rfl
  · intro rest _
    simp only [readInstant_printText readable, Except.map]
    rfl
  exact .nil

theorem Record.fills (ts : r.ts < wordLimit) (eventType : r.eventType < 65536) :
    Json.Fills Record.layout Record.layout.start [
      ("ts", Json.printNatural r.ts), ("source", Json.printText r.source),
      ("event_type", Json.printNatural r.eventType), ("data", Json.printText r.data)]
      ⟨some r.ts, some r.source, some r.eventType, some r.data⟩ := by
  have word : r.eventType < wordLimit := by
    rw [wordLimit]
    omega
  apply Json.Fills.cons rfl rfl
  · intro rest ended
    simp only [Json.readNatural_printNatural ts ts ended, Except.map]
    rfl
  apply Json.Fills.cons rfl rfl
  · intro rest _
    simp only [Json.readText_printText, Except.map]
    rfl
  apply Json.Fills.cons rfl rfl
  · intro rest ended
    simp only [Json.readNatural_printNatural eventType word ended, Except.map]
    rfl
  apply Json.Fills.cons rfl rfl
  · intro rest _
    simp only [Json.readText_printText, Except.map]
    rfl
  exact .nil

theorem recordLine_json (ts : r.ts < wordLimit) (eventType : r.eventType < 65536) :
    RecordLine (lineBytes r.json) (some r) := by
  have shown : Text.isBlankText (String.ofList r.json) = false := by
    rw [Text.isBlankText, String.toList_ofList]
    rfl
  exact .record shown (Json.decode_printObject (Record.fills ts eventType) rfl)

theorem recordLines_json {records : List Record}
    (fit : ∀ r ∈ records, r.ts < wordLimit ∧ r.eventType < 65536) :
    RecordLines (records.map fun r => lineBytes r.json) records := by
  induction records with
  | nil => exact .nil
  | cons r records ih =>
    obtain ⟨⟨ts, eventType⟩, later⟩ := List.forall_mem_cons.mp fit
    exact .record (recordLine_json ts eventType) (ih later)

def joined (lines : List (List UInt8)) : List UInt8 :=
  lines.flatMap (· ++ [0x0A])

theorem lines_joined (whole : ∀ line ∈ lines, 0x0A ∉ line ∧ ¬ EndsInReturn line) :
    Lines (joined lines) lines := by
  induction lines with
  | nil => exact .none
  | cons line lines ih =>
    obtain ⟨⟨unended, own⟩, later⟩ := List.forall_mem_cons.mp whole
    have split : joined (line :: lines) = line ++ 0x0A :: joined lines := by
      rw [joined, List.flatMap_cons, List.append_assoc, List.singleton_append, joined]
    rw [split]
    exact .lf unended own (ih later)

theorem lineBytes_whole (shown : ∀ c ∈ text, 0x20 ≤ c.toNat) :
    0x0A ∉ lineBytes text ∧ ¬ EndsInReturn (lineBytes text) := by
  refine ⟨not_mem_lineBytes shown (by decide), ?_⟩
  rintro ⟨start, last⟩
  have inside : 0x0D ∈ start ++ [0x0D] := List.mem_append_right start (List.mem_singleton.mpr rfl)
  rw [← last] at inside
  exact not_mem_lineBytes shown (by decide) inside

end Lines

/-! ## Writing -/

section Writing
variable {σ : Type} [Sink σ] {sink : Sink.Unfailing σ} {out : σ} {w : Writer σ}

/-- A sink in a good state that took whole lines. -/
structure Sink.Unfailing.Holds (sink : Sink.Unfailing σ) (out : σ) (lines : List (List UInt8)) :
    Prop where
  good : sink.good out
  bytes : sink.bytes out = joined lines

theorem writeLine_holds {lines : List (List UInt8)} (held : sink.Holds out lines) (text : List Char) :
    ∃ out', writeLine out text = (.ok (), out') ∧ sink.Holds out' (lines ++ [lineBytes text]) := by
  obtain ⟨inside, taken, good, bytes⟩ := sink.write held.good (lineBytes text)
  obtain ⟨out', ended, good', bytes'⟩ := sink.write good [0x0A]
  refine ⟨out', ?_, good', ?_⟩
  · rw [lineBytes] at taken
    rw [writeLine, taken]
    simp only [ended]
  · rw [bytes', bytes, held.bytes]
    simp [joined]

/-- Records are written one a line, and counted. -/
theorem Writer.writeAll_holds (records : List Record) {lines : List (List UInt8)}
    (held : sink.Holds w.out lines) : ∃ w', w.writeAll records = .ok w' ∧
      w'.written = w.written + records.length ∧
      sink.Holds w'.out (lines ++ records.map fun r => lineBytes r.json) := by
  induction records generalizing w lines with
  | nil => exact ⟨w, rfl, rfl, by rwa [List.map_nil, List.append_nil]⟩
  | cons r records ih =>
    obtain ⟨out', taken, held'⟩ := writeLine_holds held r.json
    obtain ⟨w', all, count, held''⟩ := ih (w := ⟨out', w.written + 1⟩) held'
    refine ⟨w', ?_, ?_, ?_⟩
    · rw [writeAll, write, taken]
      exact all
    · rw [count, List.length_cons, Nat.add_assoc, Nat.add_comm 1]
    · rwa [List.append_assoc, List.singleton_append] at held''

/-- What is written is read back: each record is counted as it is written, and is one line. -/
theorem write_then_read (sink : Sink.Unfailing σ) (good : sink.good out) (empty : sink.bytes out = [])
    (createdAt : Instant) (readable : Instant.read (createdAt.text .shortest) = .ok createdAt)
    (records : List Record) (fit : ∀ r ∈ records, r.ts < wordLimit ∧ r.eventType < 65536) :
    ∃ w, Writer.start out createdAt = .ok w ∧
      (∀ k ≤ records.length, ∃ w', w.writeAll (records.take k) = .ok w' ∧ w'.written = k) ∧
      ∃ w' out', w.writeAll records = .ok w' ∧ w'.finish = .ok out' ∧
        read (sink.bytes out') = .ok ⟨⟨"inspect-capture", 1, createdAt⟩, records⟩ ∧
        Lines (sink.bytes out') (lineBytes (Header.current createdAt).json ::
          records.map fun r => lineBytes r.json) := by
  obtain ⟨begun, taken, held⟩ := writeLine_holds
    (⟨good, empty⟩ : sink.Holds out []) (Header.current createdAt).json
  refine ⟨⟨begun, 0⟩, by rw [Writer.start, taken], ?_, ?_⟩
  · intro k short
    obtain ⟨w', all, count, _⟩ := Writer.writeAll_holds (w := ⟨begun, 0⟩) (records.take k) held
    refine ⟨w', all, ?_⟩
    rw [count, List.length_take, Nat.zero_add]
    omega
  · obtain ⟨w', all, _, held'⟩ := Writer.writeAll_holds (w := ⟨begun, 0⟩) records held
    obtain ⟨out', flushed, _, same⟩ := sink.flush held'.good
    have lines : Lines (sink.bytes out') (lineBytes (Header.current createdAt).json ::
        records.map fun r => lineBytes r.json) := by
      rw [same, held'.bytes]
      refine lines_joined ?_
      simp only [List.nil_append, List.cons_append, List.forall_mem_cons, List.forall_mem_map]
      exact ⟨lineBytes_whole (Header.json_shown _), fun r _ => lineBytes_whole r.json_shown⟩
    refine ⟨w', out', all, by rw [Writer.finish, flushed], ?_, lines⟩
    rw [read_eq_ok_iff, ← lines.eq_fileLines]
    exact .intro (headerLine_json readable rfl rfl) (recordLines_json fit)

end Writing

/-- Two records with awkward texts, written to memory. -/
theorem write_then_read_awkward : ∃ w w' out', Writer.start Memory.unlimited ⟨0, 0⟩ = .ok w ∧
    w.writeAll [⟨18446744073709551615, "a\"b\\", 65535, "\n\r\x00\u2028"⟩, ⟨0, "", 0, " "⟩] = .ok w' ∧
    w'.finish = .ok out' ∧ (read out'.bytes).toOption.map (·.records) =
      some [⟨18446744073709551615, "a\"b\\", 65535, "\n\r\x00\u2028"⟩, ⟨0, "", 0, " "⟩] := by
  have good : Memory.unfailing.good Memory.unlimited := rfl
  obtain ⟨w, started, _, w', out', all, finished, back, _⟩ := write_then_read Memory.unfailing good rfl
    ⟨0, 0⟩ rfl
    [⟨18446744073709551615, "a\"b\\", 65535, "\n\r\x00\u2028"⟩, ⟨0, "", 0, " "⟩] (by decide)
  refine ⟨w, w', out', started, all, finished, ?_⟩
  have same : read out'.bytes = .ok _ := back
  rw [same]
  rfl

end EventProbe.Capture
