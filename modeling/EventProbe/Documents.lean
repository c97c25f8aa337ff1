import EventProbe.Json.Decode
import EventProbe.Json.Print
import EventProbe.Metric
import EventProbe.Platform
import EventProbe.Plugin.Capability
import EventProbe.Status
import EventProbe.Value

/-!
# JSON forms of small values

How statuses, capabilities, types, metrics, ranges and platforms are written in JSON and read back.
-/

namespace EventProbe

/-! ## Names -/

/-- The variants of a type under the names they have in JSON. -/
abbrev Names (α : Type) := List (String × α)

def Names.print [DecidableEq α] (names : Names α) (value : α) : List Char :=
  match names.find? (·.2 == value) with
  | some (name, _) => Json.printText name
  | none => Json.printText ""

def Status.names : Names Status :=
  [("Ok", .ok), ("Timeout", .timeout), ("Eof", .eof), ("Error", .error)]

def Capability.names : Names Capability :=
  [("event_sourcing", .eventSourcing), ("field_extraction", .fieldExtraction),
    ("event_parsing", .eventParsing)]

def FieldType.names : Names FieldType :=
  [("uint64", .uint64), ("bool", .bool), ("string", .string), ("reltime", .relTime),
    ("abstime", .absTime), ("ipaddr", .ipAddr)]

def MetricType.names : Names MetricType :=
  [("Monotonic", .monotonic), ("NonMonotonic", .nonMonotonic)]

/-! ## Metrics -/

def Json.Reader.into (read : Json.Reader α) (make : α → β) : Json.Reader β :=
  fun rest => (read rest).map fun (v, rest) => (make v, rest)

def MetricValue.read : Json.Reader MetricValue :=
  Json.readTagged [
    ("U32", (Json.readNatural "u32" halfWordLimit).into .u32),
    ("S32", (Json.readInteger "i32" 32).into .s32),
    ("U64", (Json.readNatural "u64" wordLimit).into .u64),
    ("I64", (Json.readInteger "i64" 64).into .i64),
    ("Double", (Json.readReal "f64" Ieee.double).into .double),
    ("Float", (Json.readReal "f32" Ieee.single).into .float),
    ("Int", (Json.readInteger "isize" 64).into .int)]

def MetricValue.json (v : MetricValue) : List Char :=
  let (name, text) := match v with
    | .u32 n => ("U32", Json.printNatural n)
    | .s32 n => ("S32", Json.printInteger n)
    | .u64 n => ("U64", Json.printNatural n)
    | .i64 n => ("I64", Json.printInteger n)
    | .double bits => ("Double", Json.printReal Ieee.double bits)
    | .float bits => ("Float", Json.printReal Ieee.single bits)
    | .int n => ("Int", Json.printInteger n)
  Json.printObject [(name, text)]

/-- How groups of metrics are read: both members are needed. -/
def MetricFlags.layout : Json.Layout (Option Bool × Option Bool) MetricFlags where
  title := "struct MetricFlags"
  strict := false
  start := (none, none)
  members := [
    { name := "plugins", optional := false, given := (·.1.isSome)
      read := fun d rest => (Json.readBool rest).map fun (v, rest) => ((some v, d.2), rest) },
    { name := "engine", optional := false, given := (·.2.isSome)
      read := fun d rest => (Json.readBool rest).map fun (v, rest) => ((d.1, some v), rest) }]
  finish
    | (some plugins, some engine) => .ok ⟨plugins, engine⟩
    | (none, _) => .error "plugins"
    | (_, none) => .error "engine"

def MetricFlags.json (f : MetricFlags) : List Char :=
  Json.printObject [("plugins", Json.printBool f.plugins), ("engine", Json.printBool f.engine)]

/-! ## Ranges -/

def Range.layout : Json.Layout (Option Nat × Option Nat) Range where
  title := "struct Offset"
  strict := false
  start := (none, none)
  members := [
    { name := "start", optional := false, given := (·.1.isSome)
      read := fun d rest =>
        (Json.readNatural "u32" halfWordLimit rest).map fun (v, rest) => ((some v, d.2), rest) },
    { name := "length", optional := false, given := (·.2.isSome)
      read := fun d rest =>
        (Json.readNatural "u32" halfWordLimit rest).map fun (v, rest) => ((d.1, some v), rest) }]
  finish
    | (some start, some length) => .ok ⟨start, length⟩
    | (none, _) => .error "start"
    | (_, none) => .error "length"

def Range.json (r : Range) : List Char :=
  Json.printObject [("start", Json.printNatural r.start), ("length", Json.printNatural r.length)]

/-! ## Platforms -/

def Platform.layout :
    Json.Layout (Option String × Option String × Option String) Platform where
  title := "struct PlatformInfo"
  strict := false
  start := (none, none, none)
  members := [
    { name := "hostname", optional := false, given := (·.1.isSome)
      read := fun d rest => (Json.readText rest).map fun (v, rest) => ((some v, d.2), rest) },
    { name := "os", optional := false, given := (·.2.1.isSome)
      read := fun d rest =>
        (Json.readText rest).map fun (v, rest) => ((d.1, some v, d.2.2), rest) },
    { name := "arch", optional := false, given := (·.2.2.isSome)
      read := fun d rest =>
        (Json.readText rest).map fun (v, rest) => ((d.1, d.2.1, some v), rest) }]
  finish
    | (some hostname, some os, some arch) => .ok ⟨hostname, os, arch⟩
    | (none, _, _) => .error "hostname"
    | (_, none, _) => .error "os"
    | (_, _, none) => .error "arch"

def Platform.json (p : Platform) : List Char :=
  Json.printObject [("hostname", Json.printText p.hostname), ("os", Json.printText p.os),
    ("arch", Json.printText p.arch)]

end EventProbe
