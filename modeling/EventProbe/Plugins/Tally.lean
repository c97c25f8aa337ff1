import EventProbe.Plugin.Api

/-!
# The plugin `tally`

Counts the events it sees, by source.
-/

namespace EventProbe

/-- The state of the plugin: the counts by source, and their sum. -/
structure Tally where
  perSource : List (String × Nat)
  parsed : Nat
  deriving DecidableEq, Repr

namespace Tally

def count : List (String × Nat) → String → List (String × Nat)
  | [], source => [(source, 1)]
  | (name, n) :: rest, source =>
    if name = source then (name, n + 1) :: rest else (name, n) :: count rest source

def seen (t : Tally) (source : String) : Nat :=
  (t.perSource.lookup source).getD 0

instance : Plugin Tally Empty where
  parse t e := (.ok (), ⟨count t.perSource e.source, t.parsed + 1⟩)
  extract t r := (.ok [.plain (.number (t.seen (r.argKey.getD r.event.source)))], t)
  metrics t :=
    (.ok [.counter "events_parsed" t.parsed,
      .gauge "sources" (.u32 (t.perSource.length % halfWordLimit))], t)

def descriptor : Descriptor Tally where
  manifest := {
    name := "tally"
    version := "0.1.0"
    description := "counts parsed events per source"
    capabilities := .of [.eventParsing, .fieldExtraction]
    eventSource := none
    extractSources := []
    fields := [
      ⟨"tally.seen", .uint64, false, .none, "events parsed so far on the event's source"⟩,
      ⟨"tally.source", .uint64, false, .aKey, "events parsed so far on the named source"⟩] }
  init _ := .ok ⟨[], 0⟩

end Tally

end EventProbe
