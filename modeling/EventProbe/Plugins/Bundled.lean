import EventProbe.Plugins.Countdown
import EventProbe.Plugins.Payload
import EventProbe.Plugins.Strict
import EventProbe.Plugins.Tally
import EventProbe.Plugins.TestSource

/-!
# The bundled plugins

| plugin | what it does |
|---|---|
| `countdown` | generates countdown events in batches |
| `payload` | extracts fields from countdown events |
| `dummy` | accepts a single configuration |
| `test_source` | generates ticks with timeouts between them, and extracts them |
| `tally` | counts events by source |
-/

namespace EventProbe

/-- The states of bundled plugins. -/
abbrev Bundled := Countdown ⊕ Payload ⊕ Strict ⊕ TestSource ⊕ Tally

/-- The states of sources of bundled plugins. -/
abbrev BundledSource := Countdown.Stream ⊕ Empty ⊕ Strict.Exhausted ⊕ TestSource.Ticks ⊕ Empty

namespace Bundled

def countdown : Descriptor Bundled := Countdown.descriptor.map .inl

def payload : Descriptor Bundled := Payload.descriptor.map fun p => .inr (.inl p)

def strict : Descriptor Bundled := Strict.descriptor.map fun p => .inr (.inr (.inl p))

def testSource : Descriptor Bundled :=
  TestSource.descriptor.map fun p => .inr (.inr (.inr (.inl p)))

def tally : Descriptor Bundled := Tally.descriptor.map fun p => .inr (.inr (.inr (.inr p)))

def all : List (Descriptor Bundled) := [countdown, payload, strict, testSource, tally]

def find? (name : String) : Option (Descriptor Bundled) :=
  all.find? (·.manifest.name == name)

end Bundled

end EventProbe
