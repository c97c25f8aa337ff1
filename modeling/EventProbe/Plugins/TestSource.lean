import EventProbe.Plugin.Api
import EventProbe.Text.Blank

/-!
# The plugin `test_source`

Generates events `tick=0`, `tick=1` and so on, with an empty batch between two of them, and extracts
the number of the tick. The configuration is the number of events.
-/

namespace EventProbe

/-- The state of the plugin: how many events its sources generate. -/
structure TestSource where
  count : Nat
  deriving DecidableEq, Repr

namespace TestSource

/-- A source: the next tick, the number of ticks, and whether the next batch is empty. -/
structure Ticks where
  next : Nat
  count : Nat
  idle : Bool
  deriving DecidableEq, Repr

def init (config : String) : Outcome String TestSource :=
  match Text.trim config with
  | "" => .ok ⟨3⟩
  | digits =>
    match Numeral.parse digits with
    | .ok n => .ok ⟨n⟩
    | .error _ => .failed s!"expected an event count, got {Text.quoted config}"

def label : List Char := "tick=".toList

def tick (data : List UInt8) : Outcome String (List Extracted) :=
  match Utf8.decode data with
  | .error fault => .failed fault.message
  | .ok text =>
    match label.isPrefixOf? text.toList with
    | none => .ok []
    | some digits =>
      match Numeral.read digits with
      | .ok n => .ok [.located (.number n) label.length (Utf8.width digits)]
      | .error fault => .failed fault.message

instance : Plugin TestSource Ticks where
  openSource p _ := (.ok ⟨0, p.count, false⟩, p)
  nextBatch p s :=
    if s.count ≤ s.next then (.ok .endOfStream, p, s)
    else if s.idle then (.ok (.events []), p, { s with idle := false })
    else
      (.ok (.events [⟨none, Utf8.encode s!"tick={s.next}"⟩]), p,
        { s with next := s.next + 1, idle := true })
  render p e := (.ok ("test_source event: " ++ e.text), p)
  extract p r := (tick r.event.data, p)

def descriptor : Descriptor TestSource where
  manifest := {
    name := "test_source"
    version := "0.1.0"
    description := "ticks with a timeout between events"
    capabilities := .of [.eventSourcing, .fieldExtraction]
    eventSource := some "test_source"
    extractSources := ["test_source"]
    fields := [⟨"test.tick", .uint64, false, .none, "tick number of the event"⟩] }
  init := init

end TestSource

end EventProbe
