import EventProbe.Json.Decode
import EventProbe.Json.Print
import EventProbe.Time.Read

/-!
# The form of capture files

A capture file is a recording of events, one JSON object a line: a header, then the records.
-/

namespace EventProbe.Capture

def magic : String := "inspect-capture"

def version : Nat := 1

structure Header where
  magic : String
  version : Nat
  createdAt : Instant
  deriving DecidableEq, Repr

def Header.current (createdAt : Instant) : Header :=
  ⟨Capture.magic, Capture.version, createdAt⟩

structure Record where
  ts : Nat
  source : String
  eventType : Nat
  data : String
  deriving DecidableEq, Repr

/-! ## Writing -/

def Header.json (h : Header) : List Char :=
  Json.printObject [
    ("magic", Json.printText h.magic),
    ("version", Json.printNatural h.version),
    ("created_at", Json.printText (h.createdAt.text .shortest))]

def Record.json (r : Record) : List Char :=
  Json.printObject [
    ("ts", Json.printNatural r.ts),
    ("source", Json.printText r.source),
    ("event_type", Json.printNatural r.eventType),
    ("data", Json.printText r.data)]

/-! ## Reading -/

/-- A header of which some members are known. -/
structure HeaderDraft where
  magic : Option String
  version : Option Nat
  createdAt : Option Instant

/-- A member that was given, or its name. -/
def given (name : String) : Option α → Except String α
  | some value => .ok value
  | none => .error name

def HeaderDraft.finish (d : HeaderDraft) : Except String Header := do
  return ⟨← given "magic" d.magic, ← given "version" d.version, ← given "created_at" d.createdAt⟩

def readInstant : Json.Reader Instant :=
  Json.readTextAs "an RFC 3339 formatted date and time string" fun text =>
    (Instant.read text).mapError fun f => .custom f.message

def Header.layout : Json.Layout HeaderDraft Header where
  title := "struct CaptureHeader"
  strict := false
  start := ⟨none, none, none⟩
  members := [
    { name := "magic", optional := false, given := (·.magic.isSome)
      read := fun d rest =>
        (Json.readText rest).map fun (v, rest) => ({ d with magic := some v }, rest) },
    { name := "version", optional := false, given := (·.version.isSome)
      read := fun d rest =>
        (Json.readNatural "u32" halfWordLimit rest).map fun (v, rest) =>
          ({ d with version := some v }, rest) },
    { name := "created_at", optional := false, given := (·.createdAt.isSome)
      read := fun d rest =>
        (readInstant rest).map fun (v, rest) => ({ d with createdAt := some v }, rest) }]
  finish := HeaderDraft.finish

structure RecordDraft where
  ts : Option Nat
  source : Option String
  eventType : Option Nat
  data : Option String

def RecordDraft.finish (d : RecordDraft) : Except String Record := do
  return ⟨← given "ts" d.ts, ← given "source" d.source, ← given "event_type" d.eventType,
    ← given "data" d.data⟩

def Record.layout : Json.Layout RecordDraft Record where
  title := "struct CaptureRecord"
  strict := false
  start := ⟨none, none, none, none⟩
  members := [
    { name := "ts", optional := false, given := (·.ts.isSome)
      read := fun d rest =>
        (Json.readNatural "u64" wordLimit rest).map fun (v, rest) =>
          ({ d with ts := some v }, rest) },
    { name := "source", optional := false, given := (·.source.isSome)
      read := fun d rest =>
        (Json.readText rest).map fun (v, rest) => ({ d with source := some v }, rest) },
    { name := "event_type", optional := false, given := (·.eventType.isSome)
      read := fun d rest =>
        (Json.readNatural "u16" 65536 rest).map fun (v, rest) =>
          ({ d with eventType := some v }, rest) },
    { name := "data", optional := false, given := (·.data.isSome)
      read := fun d rest =>
        (Json.readText rest).map fun (v, rest) => ({ d with data := some v }, rest) }]
  finish := RecordDraft.finish

end EventProbe.Capture
