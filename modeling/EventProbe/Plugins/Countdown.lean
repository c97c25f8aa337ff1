import EventProbe.Json.Decode
import EventProbe.Plugin.Api
import EventProbe.Text.Blank

/-!
# The plugin `countdown`

Counts down to zero in batches of events. It is configured with a JSON object that may set how many
events there are and how many come in a batch.
-/

namespace EventProbe

/-- The state of the plugin: its configuration, and what its sources did so far. -/
structure Countdown where
  remaining : Nat
  batchSize : Nat
  /-- How often a source was asked for events. -/
  batches : Nat
  /-- How many events the sources produced. -/
  produced : Nat
  deriving DecidableEq, Repr

namespace Countdown

/-- A source: how many events are left, and how many come at once. -/
structure Stream where
  remaining : Nat
  batchSize : Nat
  deriving DecidableEq, Repr

structure Draft where
  remaining : Option Nat
  batchSize : Option Nat

def Draft.plugin (d : Draft) : Countdown :=
  ⟨d.remaining.getD 5, d.batchSize.getD 2, 0, 0⟩

def layout : Json.Layout Draft Countdown where
  title := "struct CountdownConfig"
  strict := true
  start := ⟨none, none⟩
  members := [
    { name := "remaining", optional := true, given := (·.remaining.isSome)
      read := fun d rest =>
        (Json.readNatural "u64" wordLimit rest).map fun (v, rest) =>
          ({ d with remaining := some v }, rest) },
    { name := "batch_size", optional := true, given := (·.batchSize.isSome)
      read := fun d rest =>
        (Json.readNatural "u64" wordLimit rest).map fun (v, rest) =>
          ({ d with batchSize := some v }, rest) }]
  finish := fun d => .ok d.plugin

/-- The plugin of a configuration. A blank text sets nothing. -/
def configured (config : String) : Option Countdown :=
  if Text.isBlankText config then some (Draft.plugin ⟨none, none⟩)
  else (Json.decode (Json.readRecord layout) config).toOption

def init (config : String) : Outcome String Countdown :=
  match configured config with
  | none => .failed "invalid countdown config"
  | some p => if p.batchSize = 0 then .failed "batch_size must be at least 1" else .ok p

/-- The event after which so many remain. -/
def event (remaining : Nat) : BatchEvent :=
  ⟨none, Utf8.encode s!"{remaining} events remaining"⟩

def Stream.batch (s : Stream) : List BatchEvent :=
  (List.range (min s.remaining s.batchSize)).map fun i => event (s.remaining - 1 - i)

instance : Plugin Countdown Stream where
  openSource p _ := (.ok ⟨p.remaining, p.batchSize⟩, p)
  nextBatch p s :=
    let p := { p with batches := p.batches + 1 }
    if s.remaining = 0 then (.ok .endOfStream, p, s)
    else
      let size := min s.remaining s.batchSize
      (.ok (.events s.batch), { p with produced := p.produced + size },
        { s with remaining := s.remaining - size })
  metrics p :=
    (.ok [.counter "next_batch_call_count" p.batches, .counter "events_produced" p.produced], p)

def descriptor : Descriptor Countdown where
  manifest := {
    name := "countdown"
    version := "0.1.0"
    description := "counts down to zero in batches"
    capabilities := .of [.eventSourcing]
    eventSource := some "countdown"
    extractSources := []
    fields := [] }
  init := init

end Countdown

end EventProbe
