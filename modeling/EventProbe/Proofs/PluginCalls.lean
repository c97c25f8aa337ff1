import EventProbe.Proofs.EventOrigins
import EventProbe.Proofs.FieldAvailability

/-! Plugins are called only within what they declare. Each operation of a driver enters certain calls in
the journal, and for each of these the state before the operation tells why it was permitted. -/
namespace EventProbe

theorem Manifest.generates_eq_some_iff {m : Manifest} {source : String} :
    m.generates = some source ↔ m.can .eventSourcing = true ∧ m.eventSource = some source := by
  simp [generates]

section Calls
variable [Plugin π ι] {allowed : Handle → Action → Prop}

theorem Driver.openPlugin_makes (d : Driver ι) (h : Host π) (name params : String) (platform : Bool)
    (ok : ∀ owner source, d.engine.source = none → d.engine.registry.find? name = some owner →
      owner.manifest.generates = some source → allowed owner (.openSource params)) :
    h.Makes allowed (d.openPlugin h name params platform).2.2 := by
  obtain same | same := d.openPlugin_host h name params platform <;> rw [same]
  · exact .refl allowed h
  · exact d.engine.openPlugin_makes h name params platform ok

theorem Driver.extractText_makes (d : Driver ι) (h : Host π) (field : String) (handle : EventHandle)
    (ok : ∀ x e, (d.prepare field handle).1 = .ok (x, e) →
      ∀ (h : Host π) offsets, h.Makes allowed (x.extract h e offsets).2) :
    h.Makes allowed (d.extractText h field handle).2.2 := by
  rcases found : d.prepare field handle with ⟨fault | ⟨x, e⟩, d'⟩
  · simp only [extractText, found]
    exact .refl allowed h
  · simp only [extractText, found, renderField_host]
    exact ok x e (by rw [found]) h false

theorem Driver.extractWithOffsets_makes (d : Driver ι) (h : Host π) (field : String)
    (handle : EventHandle) (ok : ∀ x e, (d.prepare field handle).1 = .ok (x, e) →
      ∀ (h : Host π) offsets, h.Makes allowed (x.extract h e offsets).2) :
    h.Makes allowed (d.extractWithOffsets h field handle).2.2 := by
  rcases found : d.prepare field handle with ⟨fault | ⟨x, e⟩, d'⟩
  · simp only [extractWithOffsets, found]
    exact .refl allowed h
  · have ok := ok x e (by rw [found])
    have first := ok h false
    simp only [extractWithOffsets, found]
    rw [← renderField_host h x field e] at first
    split <;> rename_i rendered <;> rw [rendered] at first
    · exact first
    · exact first
    · rw [locateField_host]
      exact first.trans (ok _ true)

end Calls

/-! ## Permitted calls -/

def DriverCall.field? : DriverCall π → Option String
  | .extractText field _ => some field
  | .extractWithOffsets field _ => some field
  | _ => none

def DriverCall.given : DriverCall π → Option Handle
  | .addExtractors p _ => some p
  | _ => none

/-- A driver is only asked to add the fields of plugins that it has registered before. -/
def AddsOwn (i : Nat) : List (Exchange π) → Prop
  | [] => True
  | x :: older => (x.driver = i → ∀ r ∈ x.call.given, r ∈ registeredBy i older) ∧ AddsOwn i older

instance AddsOwn.decide (i : Nat) : (log : List (Exchange π)) → Decidable (AddsOwn i log)
  | [] => .isTrue trivial
  | _ :: older =>
    have := AddsOwn.decide i older
    inferInstanceAs (Decidable (_ ∧ _))

/-- The calls of plugins that an operation of a driver may make, by the state before the operation and
the log up to then. -/
inductive Driver.Permits [Plugin π ι] (i : Nat) (log : List (Exchange π)) (d : Driver ι) (h : Host π) :
    DriverCall π → Handle → Action → Prop where
  /-- A plugin that is being made gets the next slot. -/
  | init (plugin : Descriptor π) (config : String) :
      Permits i log d h (.register plugin config) ⟨h.slots.length, plugin.manifest⟩ (.init config)
  | openSource {source : String} : r ∈ registeredBy i log → r.manifest.can .eventSourcing = true →
      r.manifest.eventSource = some source → d.engine.source = none →
      Permits i log d h (.openPlugin name params platform) r (.openSource params)
  /-- The source is one that the plugin returned, and the open one; its state changes as the plugin
  changes it. -/
  | nextBatch {state : ι} : r ∈ registeredBy i log → Process.Fed i r source log state events →
      d.engine.source = some (.plugin ⟨r, source, state, []⟩) → d.engine.finished = none →
      (∃ pending, (d.perform h .next).2.1.engine.source =
        some (.plugin ⟨r, source, (h.nextBatch r state).2.1, pending⟩)) →
      Permits i log d h .next r .nextBatch
  | parse : r ∈ registeredBy i log → r.manifest.can .eventParsing = true →
      r.manifest.reads e.source = true → Permits i log d h .next r (.parse e)
  /-- The field is in the table of the plugin, whose fields were added for a source that it reads. -/
  | extract {id : Nat} : r ∈ registeredBy i log → r.manifest.can .fieldExtraction = true → r ∈ addedBy i log →
      d.engine.current = some e → r.manifest.reads e.source = true →
      FieldName.parse name = .ok field → r.Declares field id info → c.field? = some name →
      Permits i log d h c r (.extract (Request.make id info field e offsets))
  | render : r ∈ registeredBy i log → d.engine.current = some e → Process.Generated i r log e →
      c.field? = some name → Permits i log d h c r (.render e)
  | metrics : r ∈ registeredBy i log → Permits i log d h .metrics r .metrics

section Permitted
variable {i : Nat} {log : List (Exchange π)} {r : Handle}

theorem AddsOwn.registered (own : AddsOwn i log) (added : r ∈ addedBy i log) : r ∈ registeredBy i log := by
  induction log with
  | nil => simp [addedBy] at added
  | cons x older ih =>
    have grows : registeredBy i older ⊆ registeredBy i (x :: older) := registeredBy_grows i [x] older
    obtain ⟨here, own⟩ := own
    simp only [addedBy, List.reverse_cons, List.filterMap_append, List.mem_append] at added
    obtain before | last := added
    · exact grows (ih own before)
    · apply grows
      by_cases same : x.driver = i
      · apply here same
        simp only [same, if_true, List.filterMap_cons, List.filterMap_nil] at last
        cases call : x.call with
        | addExtractors q source =>
          rw [call] at last
          cases addable : q.addable source <;>
            simp [DriverCall.adds, addable, DriverCall.given] at last ⊢
          exact last.symm
        | _ => simp [call, DriverCall.adds] at last
      · simp [same] at last

variable [Plugin π ι] {p : Process π ι} {d : Driver ι}

/-- Every extractor that a driver resolves is a general one, or was added with the fields of its
plugin. -/
theorem Process.Run.resolves_added {id : Nat} (run : Process.Run p log) (there : p.driver? i = some d)
    (resolved : (d.extractors.resolve name).1 = .ok (.plugin field r id info)) :
    FieldName.parse name = .ok field ∧ r ∈ addedBy i log ∧ r.manifest.can .fieldExtraction = true ∧
      r.Declares field id info := by
  have stocked := run.stocked there
  rw [(run.coherent there).resolve_eq] at resolved
  cases parsed : FieldName.parse name with
  | error fault => simp [Extractors.build, parsed] at resolved
  | ok written =>
    by_cases general : ∃ kind : GenericField, kind.Fits written
    · obtain ⟨kind, fits⟩ := general
      cases (stocked.build_generic parsed fits).symm.trans resolved
    · have special : ∀ kind : GenericField, ¬ kind.Fits written := fun kind fits => general ⟨kind, fits⟩
      rw [stocked.build_plugin parsed special] at resolved
      split at resolved
      · rename_i x found
        cases resolved
        obtain ⟨q, contributes, provided⟩ := List.exists_of_findSome?_eq_some found
        have extracts := stocked.contributor_extracts contributes
        obtain ⟨_, _, declares, same⟩ := (provides_iff extracts).mp provided
        cases same
        exact ⟨rfl, mem_of_mem_contributors contributes, extracts, declares⟩
      · cases resolved

theorem Process.Run.permits_next (run : Process.Run p log) (there : p.driver? i = some d) :
    p.host.Makes (d.Permits i log p.host .next) (d.perform p.host .next).2.2 := by
  cases state : d.state with
  | idle =>
    simp only [Driver.perform, Driver.next_of_idle state]
    exact .refl _ p.host
  | capturing =>
    have step : (d.perform p.host .next).2 =
        ({ d with engine := (d.engine.next p.host).2.1 }, (d.engine.next p.host).2.2) := by
      simp only [Driver.perform, Driver.next_of_capturing state]
    have source : (d.perform p.host .next).2.1.engine.source = (d.engine.next p.host).2.1.source := by
      rw [step]
    rw [step]
    have known := run.plugins_eq there
    have progress := (d.engine.next_advances p.host).progress
    generalize (d.engine.next p.host).2.1 = g' at progress source
    generalize (d.engine.next p.host).2.2 = h' at progress
    have drawing : ∀ {s s' : Source ι} {result between}, d.engine.finished = none →
        d.engine.source = some s → s.Draws p.host result s' between → g'.source = some s' →
        p.host.Makes (d.Permits i log p.host .next) between := by
      intro s s' result between finished opened draws left
      apply draws.makes
      rintro stream state rfl pending ⟨rest, rfl⟩ rfl
      obtain ⟨events, fed, _⟩ := (run.sourced there).stream stream opened
      obtain ⟨owner, name, state, _⟩ := stream
      cases pending
      exact .nextBatch fed.owner.1 fed opened finished ⟨rest, source.trans left⟩
    cases progress with
    | still => exact .refl _ p.host
    | barren finished opened draws left => exact drawing finished opened draws left
    | took finished opened draws left =>
      refine (drawing finished opened draws left).trans (Engine.offer_makes _ _ _ ?_)
      intro r registered parses reads
      rw [known] at registered
      exact .parse registered parses reads

/-- Extracting a field calls the plugin that serves it, or shows the event with its own plugin. -/
theorem Process.Run.permits_extract (run : Process.Run p log) (own : AddsOwn i log)
    (there : p.driver? i = some d) {c : DriverCall π} {field : String} (asks : c.field? = some field)
    {handle : EventHandle} {x : Extractor} {e : Event}
    (ready : (d.prepare field handle).1 = .ok (x, e)) (h : Host π) (offsets : Bool) :
    h.Makes (d.Permits i log p.host c) (x.extract h e offsets).2 := by
  obtain ⟨resolved, current⟩ := Driver.prepare_eq_ok ready
  apply x.extract_makes
  · intro r named
    have generated := (run.sourced there).current e r current named
    exact .render generated.registered current generated asks
  · rintro written r id info rfl reads
    obtain ⟨parsed, added, extracts, declares⟩ := run.resolves_added there resolved
    exact .extract (own.registered added) extracts added current reads parsed declares asks

/-- Every call of a plugin that an operation of a driver makes is permitted, in every state of a run in
which only fields of the driver's own plugins were added; and the end of a driver closes the source
that is open. The plugins have slots of their own, by which the calls name them. -/
theorem Process.Run.calls_permitted (run : Process.Run p log) (own : AddsOwn i log)
    (there : p.driver? i = some d) :
    (registeredBy i log).Pairwise (fun q r => q.slot ≠ r.slot) ∧
    (∀ c, p.host.Makes (d.Permits i log p.host c) (d.perform p.host c).2.2) ∧
    p.host.Makes (fun r a => a = .close ∧ ∃ stream, d.engine.source = some (.plugin stream) ∧
      stream.owner = r) (d.drop p.host).2 := by
  have known := run.plugins_eq there
  refine ⟨(run.houses there).distinct, ?_, ?_⟩
  · intro c
    cases c with
    | register plugin config => exact d.engine.registry.register_makes p.host plugin config (.init ..)
    | addExtractors r source => exact .refl _ p.host
    | openCapture file => exact .refl _ p.host
    | openPlugin name params platform =>
      apply d.openPlugin_makes
      intro owner source closed found generates
      have registered := List.mem_of_find?_eq_some found
      rw [known] at registered
      obtain ⟨can, declared⟩ := Manifest.generates_eq_some_iff.mp generates
      exact .openSource registered can declared closed
    | next => exact run.permits_next there
    | extractText field handle =>
      apply d.extractText_makes
      intro x e ready
      exact run.permits_extract own there rfl ready
    | extractWithOffsets field handle =>
      apply d.extractWithOffsets_makes
      intro x e ready
      exact run.permits_extract own there rfl ready
    | metrics =>
      apply Collector.collect_makes
      intro r registered
      rw [known] at registered
      exact .metrics registered
  · apply d.engine.stop_makes
    intro stream opened
    exact ⟨rfl, stream, opened, rfl⟩

end Permitted

namespace Process

/-- A driver adds the fields of the source that it captures ticks from, and takes a step. -/
def tallying : Process Bundled BundledSource × List (Exchange Bundled) :=
  let fresh : Process Bundled BundledSource := ⟨Host.fresh .bare, []⟩
  (fresh.create .default).play [] [
    (0, .register Bundled.testSource "2"),
    (0, .addExtractors ⟨0, Bundled.testSource.manifest⟩ "test_source"),
    (0, .openPlugin "test_source" "" false), (0, .next)]

/-- The plugin is asked for the number of the tick, as it may be. -/
theorem tallying_calls_permitted : ∃ d, tallying.1.driver? 0 = some d ∧
    (∀ c, tallying.1.host.Makes (d.Permits 0 tallying.2 tallying.1.host c)
      (d.perform tallying.1.host c).2.2) ∧
    (d.perform tallying.1.host (.extractText "test.tick" ⟨1, some 0⟩)).2.2.journal.size =
      tallying.1.host.journal.size + 1 := by
  have run : Run tallying.1 tallying.2 := .play (.create .default (.start .bare)) _
  obtain ⟨d, there, asked⟩ : ∃ d ∈ tallying.1.driver? 0,
      (d.perform tallying.1.host (.extractText "test.tick" ⟨1, some 0⟩)).2.2.journal.size =
        tallying.1.host.journal.size + 1 := by decide +kernel
  obtain ⟨_, permitted, _⟩ := run.calls_permitted (by decide +kernel) there
  exact ⟨d, there, permitted, asked⟩

end Process

end EventProbe
