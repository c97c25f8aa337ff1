import EventProbe.Proofs.ExtractionAgreement
import EventProbe.Proofs.ProcessHistory
import EventProbe.Proofs.StreamQueue

/-! Drivers whose plugins panic. A panic ends an operation between two changes of the state; for each
operation, what has been changed by then leaves a driver that goes on. -/
namespace EventProbe

def Outcome.panic? : Outcome ε α → Option Panic
  | .panicked p => some p
  | _ => none

def Reply.panic? : Reply → Option Panic
  | .registered result => result.panic?
  | .opened result => result.panic?
  | .text result => result.panic?
  | .located result => result.panic?
  | .stepped (.error p) => some p
  | .measured (.error p) => some p
  | _ => none

theorem Outcome.panic?_eq_some {o : Outcome ε α} : o.panic? = some p ↔ o = .panicked p := by
  cases o <;> simp [panic?]

theorem Registry.register_panicked {r : Registry} {h : Host π} {plugin : Descriptor π}
    {config : String} (panicked : (r.register h plugin config).1 = .panicked p) :
    (r.register h plugin config).2.1 = r ∧ (r.register h plugin config).2.2.slots = h.slots := by
  obtain ⟨_, kept⟩ | ⟨h', state, answer, _⟩ := r.register_cases h plugin config
  · exact kept
  · rw [answer] at panicked
    cases panicked

/-- A step that a panic ends. -/
theorem Engine.Advance.panicked [Plugin π ι] {g g' : Engine ι} {h h' : Host π}
    (step : Advance g h e (.error p) g' h') :
    g'.current = none ∧ g'.source.isSome = true ∧ g'.finished = none ∧ g'.counters = g.counters := by
  cases step with
  | interrupted finished | parsePanicked finished => exact ⟨rfl, rfl, finished, rfl⟩

namespace Driver
variable [Plugin π ι] {d d' : Driver ι} {h : Host π} {i : Nat} {log : List (Exchange π)} {p : Panic}

/-- Whatever is opened next is opened if it can be. -/
structure Reopens (π : Type) [Plugin π ι] (d : Driver ι) : Prop where
  capture : ∀ file, (d.openCapture file).1 = .ok () ↔
    ∃ bytes contents, file = .ok bytes ∧ Capture.read bytes = .ok contents
  plugin : ∀ (h : Host π) name params platform,
    (d.openPlugin h name params platform).1 = .ok () ↔
      ∃ owner source state, d.engine.registry.find? name = some owner ∧
        owner.manifest.generates = some source ∧ (h.openSource owner params).1 = .ok state

/-- All extractions answer as before. -/
structure ReadsOn (π : Type) [Plugin π ι] (d d' : Driver ι) : Prop where
  kept : ∃ extractors, d' = { d with extractors }
  text : ∀ (h : Host π) field handle,
    (d'.extractText h field handle).1 = (d.extractText h field handle).1
  located : ∀ (h : Host π) field handle,
    (d'.extractWithOffsets h field handle).1 = (d.extractWithOffsets h field handle).1

/-- After a step of a driver that a panic ended, the source is open and nothing was counted. No handle
names an event, and the stream goes on behind the events that were taken so far. -/
structure Resumes (i : Nat) (log : List (Exchange π)) (d : Driver ι) (h : Host π) (d' : Driver ι) :
    Prop where
  capturing : d'.state = .capturing
  kept : ∃ engine, d' = { d with engine } ∧ engine.registry = d.engine.registry
  current : d'.engine.current = none
  stale : ∀ (q : Process π ι) handle field x, handle.isNull = false →
    (d'.extractors.resolve field).1 = .ok x → q.Refused d' field handle .staleEvent
  opened : d'.engine.source.isSome = true
  going : d'.engine.finished = none
  counters : d'.engine.counters = d.engine.counters
  order : d.engine.waiting ++ d.engine.fetched h =
    (d.engine.taken h).toList ++ d'.engine.waiting
  used : d'.engine.nextNum = d.engine.nextNum + (d.engine.taken h).toList.length
  unissued : ∀ handle ∈ issuedBy i log, ∃ n, handle.seq = some n ∧ n < d'.engine.nextNum
  onward : ∀ calls : List (Host π × DriverCall π), d'.Streams calls

/-- What a call that a panic ended leaves of a driver. -/
def Withstands (i : Nat) (log : List (Exchange π)) (d : Driver ι) (h : Host π) :
    DriverCall π → Prop
  | .register plugin config =>
    (d.register h plugin config).2.1 = d ∧ (d.register h plugin config).2.2.slots = h.slots
  | .openPlugin name params platform =>
    d.state = .idle ∧ d.engine.source = none ∧
      (d.openPlugin h name params platform).2.1 = d ∧ d.Reopens π
  | .next => d.Resumes i log h (d.next h).2.1
  | .extractText field handle => d.ReadsOn π (d.extractText h field handle).2.1
  | .extractWithOffsets field handle => d.ReadsOn π (d.extractWithOffsets h field handle).2.1
  | .metrics => ∃ collector, (d.metrics h).2.1 = { d with collector }
  | .addExtractors _ _ => False
  | .openCapture _ => False

/-! ## Opening -/

omit [Plugin π ι] in
theorem register_panicked {plugin : Descriptor π} {config : String}
    (panicked : (d.register h plugin config).1 = .panicked p) :
    (d.register h plugin config).2.1 = d ∧ (d.register h plugin config).2.2.slots = h.slots := by
  have ended : (d.engine.registry.register h plugin config).1 = .panicked p := by
    simp only [register, Engine.register] at panicked
    cases answer : (d.engine.registry.register h plugin config).1 <;> rw [answer] at panicked
    · cases panicked
    · cases panicked
    · cases panicked
      rfl
  obtain ⟨registry, slots⟩ := Registry.register_panicked ended
  refine ⟨?_, slots⟩
  simp only [register, Engine.register, registry]

theorem Matched.reopens (matched : d.Matched) (idle : d.state = .idle) : d.Reopens π where
  capture file := by
    rw [← Engine.openCapture_ok_iff (matched.closed idle)]
    obtain ⟨fault, refused, same⟩ | ⟨g, opened, same⟩ := openCapture_of_idle idle file
    · simp [same, refused]
    · simp [same, opened]
  plugin h name params platform := by
    rw [← Engine.openPlugin_ok_iff (matched.closed idle) platform]
    obtain ⟨fault, h', refused, same⟩ | ⟨p, h', panicked, same⟩ | ⟨g, h', opened, same⟩ :=
      openPlugin_of_idle idle h name params platform
    · simp [same, refused]
    · simp [same, panicked]
    · simp [same, opened]

/-! ## Extraction -/

/-- Extractors that were kept on the way answer as those that would be built. -/
theorem prepare_readsOn (coherent : d.extractors.Coherent) (field : String) (handle : EventHandle) :
    d.ReadsOn π (d.prepare field handle).2 := by
  have found : ∀ name, ((d.extractors.resolve field).2.resolve name).1 =
      (d.extractors.resolve name).1 := by
    intro name
    rw [(coherent.resolve field).resolve_eq name, coherent.resolve_eq name, Extractors.build,
      Extractors.build, d.extractors.resolve_factories field]
  rw [prepare_resolve]
  constructor
  · exact ⟨_, rfl⟩
  · intro h field' handle'
    exact extractText_congr (prepare_congr (found field')) h
  · intro h field' handle'
    exact extractWithOffsets_congr (prepare_congr (found field')) h

/-! ## Steps -/

theorem Tracked.resumes (tracked : d.Tracked i log) (panicked : (d.next h).1 = .error p) :
    d.Resumes i log h (d.next h).2.1 := by
  cases state : d.state with
  | idle =>
    rw [next_of_idle state] at panicked
    cases panicked
  | capturing =>
    have step := d.engine.next_advances h
    have moves := step.moves
    have below := step.nextNum_le
    have registry := step.registry_eq
    rw [next_of_capturing state] at panicked ⊢
    have ended : (d.engine.next h).1 = .error p := by
      cases answer : (d.engine.next h).1 with
      | ok status =>
        rw [answer] at panicked
        cases panicked
      | error cause =>
        rw [answer] at panicked
        cases panicked
        rfl
    rw [ended] at step
    obtain ⟨unset, opened, going, counters⟩ := step.panicked
    refine ⟨state, ⟨_, rfl, registry⟩, unset, ?_, opened, going, counters, moves.order, moves.used,
      ?_, streams state⟩
    · intro q handle field x named resolved
      apply Process.refused_of_event resolved
      apply event_stale named
      intro e current
      cases unset.symm.trans current
    · intro handle given
      obtain ⟨n, seq, less⟩ := tracked.below handle given
      exact ⟨n, seq, Nat.lt_of_lt_of_le less below⟩

end Driver

/-- In every state of a run, and whatever a driver is asked for then, it withstands a panic of a plugin.
What it does afterwards is part of the run. -/
theorem Process.Run.panic_safe [Plugin π ι] {p : Process π ι} {log : List (Exchange π)}
    {d : Driver ι} {panic : Panic} (run : Run p log) (there : p.driver? i = some d) (h : Host π)
    (c : DriverCall π) (panicked : (d.perform h c).1.panic? = some panic) :
    d.Withstands i log h c := by
  have matched := run.matched there
  have coherent := run.coherent there
  cases c with
  | register plugin config =>
    have ended : (d.register h plugin config).1 = .panicked panic :=
      Outcome.panic?_eq_some.mp panicked
    exact Driver.register_panicked ended
  | addExtractors plugin source => cases panicked
  | openCapture file =>
    have ended : Outcome.ofExcept (d.openCapture file).1 = .panicked panic :=
      Outcome.panic?_eq_some.mp panicked
    cases answer : (d.openCapture file).1 <;> rw [answer] at ended <;> cases ended
  | openPlugin name params platform =>
    have ended := Outcome.panic?_eq_some.mp panicked
    obtain ⟨idle, same⟩ := Driver.openPlugin_panicked ended
    exact ⟨idle, matched.closed idle, same, matched.reopens idle⟩
  | next =>
    have tracked := run.sound.tracked i d there
    cases answer : (d.next h).1 with
    | error cause => exact tracked.resumes answer
    | ok told =>
      have quiet : (Reply.stepped (d.next h).1).panic? = none := by rw [answer]; rfl
      cases quiet.symm.trans panicked
  | extractText field handle =>
    simp only [Driver.Withstands, Driver.extractText_driver]
    exact Driver.prepare_readsOn coherent field handle
  | extractWithOffsets field handle =>
    simp only [Driver.Withstands, Driver.extractWithOffsets_driver]
    exact Driver.prepare_readsOn coherent field handle
  | metrics => exact ⟨_, rfl⟩

namespace Process

/-- A driver that has taken the first of three events. A plugin will panic at the second, and the source
before the third. -/
def jolting : Process Scripted Scripted.Stream × List (Exchange Scripted) :=
  let script : Scripted := ⟨none, none, .labelled "", [], [], []⟩
  let steps : List Scripted.Step := [.batch (.events [⟨some 7, [97]⟩, ⟨some 8, [98]⟩]),
    .panic "no more", .batch (.events [⟨some 9, [99]⟩])]
  let fresh : Process Scripted Scripted.Stream := ⟨Host.fresh .bare, []⟩
  (fresh.create .default).play [] [
    (0, .register (Scripted.descriptor (Scripted.plain "source" .eventSourcing (some "letters")) none
      { script with steps := some steps }) ""),
    (0, .register (Scripted.descriptor (Scripted.plain "touchy" .eventParsing none) none
      { script with parsing := [([98], .panic "what is this")] }) ""),
    (0, .openPlugin "source" "" false), (0, .next)]

/-- It withstands both panics, and then delivers the third event, under the third number. -/
theorem jolting_panic_safe :
    let jolted := jolting.1.play jolting.2 [(0, .next)]
    let onward := jolted.1.play jolted.2 [(0, .next), (0, .next)]
    (∃ d, jolting.1.driver? 0 = some d ∧
      (d.perform jolting.1.host .next).1.panic? = some ⟨"what is this"⟩ ∧
      d.Withstands 0 jolting.2 jolting.1.host .next) ∧
    (∃ d, jolted.1.driver? 0 = some d ∧
      (d.perform jolted.1.host .next).1.panic? = some ⟨"no more"⟩ ∧
      d.Withstands 0 jolted.2 jolted.1.host .next) ∧
    issuedBy 0 onward.2 = [⟨1, some 2⟩, ⟨1, some 0⟩] := by
  intro jolted onward
  have run : Run jolting.1 jolting.2 := .play (.create .default (.start .bare)) _
  have run' : Run jolted.1 jolted.2 := run.play _
  have ready : ∃ d ∈ jolting.1.driver? 0,
      (d.perform jolting.1.host .next).1.panic? = some ⟨"what is this"⟩ := by decide +kernel
  have ready' : ∃ d ∈ jolted.1.driver? 0,
      (d.perform jolted.1.host .next).1.panic? = some ⟨"no more"⟩ := by decide +kernel
  obtain ⟨d, there, panicked⟩ := ready
  obtain ⟨d', there', panicked'⟩ := ready'
  refine ⟨⟨d, there, panicked, ?_⟩, ⟨d', there', panicked', ?_⟩, by decide +kernel⟩
  · exact run.panic_safe there _ _ panicked
  · exact run'.panic_safe there' _ _ panicked'

end Process

end EventProbe
