import EventProbe.Proofs.JournalEntries
import EventProbe.Proofs.RegisteredPlugins

/-! Where the source of a driver and its events come from. The state of a source is what the plugin
returned when the driver opened it, or when it was asked for a batch since then; every event that
waits, or is current, and that names a plugin was in one of these batches. -/
namespace EventProbe

/-- The log tells how a driver came by the state of a source of a plugin, and by these events: each of
the calls was answered so by the plugin, in the process in which it was made. -/
inductive Process.Fed [Plugin π ι] (i : Nat) (owner : Handle) (source : String) :
    List (Exchange π) → ι → List BatchEvent → Prop where
  | opened : Run q older → q.driver? i = some d → d.engine.registry.find? name = some owner →
      owner.manifest.generates = some source → q.host.openSource owner params = (.ok state, h') →
      Fed i owner source (⟨i, .openPlugin name params platform, reply, delivered⟩ :: older) state []
  | asked : Fed i owner source older state events → Run q older → q.driver? i = some d →
      d.engine.source = some (.plugin ⟨owner, source, state, []⟩) →
      q.host.nextBatch owner state = (batch, state', h') →
      Fed i owner source (⟨i, .next, reply, delivered⟩ :: older) state' (events ++ generated batch)
  | later (x : Exchange π) : Fed i owner source older state events →
      Fed i owner source (x :: older) state events

/-- An event that a plugin generated, as it was delivered: the plugin gave its data, and also its time
unless it left that open. -/
def Process.Generated [Plugin π ι] (i : Nat) (owner : Handle) (log : List (Exchange π)) (e : Event) :
    Prop :=
  ∃ source state events, Fed (ι := ι) i owner source log state events ∧ ∃ b ∈ events, ∃ now,
    e = ⟨e.num, b.ts.getD now, source, pluginEventType, b.data, e.platform, some owner⟩

section Sources
variable [Plugin π ι]

/-- A step draws nothing from the source, or what it draws is no event, or it shows the event to the
parsing plugins, after which it may be the current one. -/
inductive Engine.Progress (g : Engine ι) (h : Host π) : Engine ι → Host π → Prop where
  | still : g'.source = g.source → g'.current = none → Progress g h g' h
  | barren : g.finished = none → g.source = some s → s.Draws h result s' h' →
      g'.source = some s' → g'.current = none → Progress g h g' h'
  | took : g.finished = none → g.source = some s → s.Draws h (.ok (.event raw)) s' h' →
      g'.source = some s' → (∀ e, g'.current = some e → e = g.number raw) →
      Progress g h g' (offer h' (g.number raw) g.registry.plugins).2

section Steps
variable {g g' : Engine ι} {h h' : Host π} {d d' : Driver ι} {i : Nat} {log : List (Exchange π)}

theorem Engine.Advance.progress (step : Advance g h e result g' h') : g.Progress h g' h' := by
  cases step with
  | ended => exact .still rfl rfl
  | closed => exact .still rfl rfl
  | @interrupted s _ _ _ finished opened pulled | @timeout s _ _ finished opened pulled
  | @eof s _ _ finished opened pulled | @failed s _ _ _ finished opened pulled =>
    have draws := s.draws h
    rw [pulled] at draws
    exact .barren finished opened draws rfl rfl
  | @delivered s _ _ _ _ finished opened pulled offered
  | @refused s _ _ _ _ _ finished opened pulled offered
  | @parsePanicked s _ _ _ _ _ finished opened pulled offered =>
    have draws := s.draws h
    rw [pulled] at draws
    have left : (offer _ (g.number _) g.registry.plugins).2 = h' := congrArg Prod.snd offered
    rw [← left]
    refine .took finished opened draws rfl ?_
    intro e current
    cases current <;> rfl

/-- What the log tells of the source of a driver and of its current event. -/
structure Driver.Sourced (i : Nat) (log : List (Exchange π)) (d : Driver ι) : Prop where
  stream : ∀ s, d.engine.source = some (.plugin s) →
    ∃ events, Process.Fed i s.owner s.source log s.state events ∧ ∀ b ∈ s.pending, b ∈ events
  current : ∀ e owner, d.engine.current = some e → e.plugin = some owner →
    Process.Generated i owner log e

theorem Process.Generated.later {owner : Handle} {e : Event} (generated : Generated i owner log e)
    (x : Exchange π) : Generated i owner (x :: log) e := by
  obtain ⟨source, state, events, fed, b, given, now, same⟩ := generated
  exact ⟨source, state, events, fed.later x, b, given, now, same⟩

theorem Driver.Sourced.later (sourced : d.Sourced i log) (x : Exchange π) : d.Sourced i (x :: log) where
  stream s opened := by
    obtain ⟨events, fed, waiting⟩ := sourced.stream s opened
    exact ⟨events, fed.later x, waiting⟩
  current e owner now named := (sourced.current e owner now named).later x

/-- The event of a driver that was drawn from a stream was generated for it. -/
theorem Process.Generated.of_number {stream : PluginStream ι} {events : List BatchEvent}
    {owner : Handle} {b : BatchEvent} (fed : Fed i stream.owner stream.source log state events)
    (given : b ∈ events) (named : (g.number (stream.raw now b)).plugin = some owner) :
    Generated i owner log (g.number (stream.raw now b)) := by
  cases named
  exact ⟨stream.source, state, events, fed, b, given, now, rfl⟩

variable {p : Process π ι} {reply : Reply} {delivered : Option Event}

theorem Driver.Sourced.draws {s s' : Source ι} (sourced : d.Sourced i log) (run : Process.Run p log)
    (there : p.driver? i = some d) (opened : d.engine.source = some s)
    (draws : s.Draws p.host result s' h') (left : d'.engine.source = some s')
    (drawn : ∀ e, d'.engine.current = some e →
      ∃ raw, result = .ok (.event raw) ∧ e = d.engine.number raw) :
    d'.Sourced i (⟨i, .next, reply, delivered⟩ :: log) := by
  cases draws with
  | recorded recorded =>
    constructor
    · intro s opened'
      cases left.symm.trans opened'
    · intro e owner now named
      obtain ⟨raw, gave, rfl⟩ := drawn e now
      cases (recorded raw gave).symm.trans named
  | waiting stream pending =>
    obtain ⟨events, fed, waits⟩ := sourced.stream stream opened
    rw [pending] at waits
    constructor
    · intro s opened'
      cases left.symm.trans opened'
      exact ⟨events, fed.later _, fun b rest => waits b (List.mem_cons_of_mem _ rest)⟩
    · intro e owner now named
      obtain ⟨raw, gave, rfl⟩ := drawn e now
      cases gave
      exact (Process.Generated.of_number fed (waits _ List.mem_cons_self) named).later _
  | asked stream pending answer rest gave =>
    obtain ⟨events, fed, _⟩ := sourced.stream stream opened
    obtain ⟨owner, source, state, _⟩ := stream
    cases pending
    have fed' : Process.Fed i owner source (⟨i, .next, reply, delivered⟩ :: log) _ _ :=
      fed.asked run there opened answer
    constructor
    · intro s opened'
      cases left.symm.trans opened'
      exact ⟨_, fed', fun b waits => List.mem_append_right _ (rest b waits)⟩
    · intro e owner now named
      obtain ⟨raw, event, rfl⟩ := drawn e now
      obtain ⟨b, given, time, rfl⟩ := gave raw event
      exact Process.Generated.of_number fed' (List.mem_append_right _ given) named

/-- A call that opens a source has none of its events yet. -/
theorem Driver.Sourced.opens (run : Process.Run p log) (there : p.driver? i = some d)
    {c : DriverCall π} (opens : (d.perform p.host c).1.opens = true) :
    (d.perform p.host c).2.1.Sourced i (⟨i, c, reply, delivered⟩ :: log) := by
  obtain ⟨unset, ⟨records, started⟩ | ⟨name, params, platform, owner, source, state, h', rfl, found,
    generates, answer, started⟩⟩ := d.perform_opened p.host opens
  · constructor
    · intro s opened
      cases started.symm.trans opened
    · intro e owner now
      cases unset.symm.trans now
  · constructor
    · intro s opened
      cases started.symm.trans opened
      exact ⟨[], .opened run there found generates answer, by simp⟩
    · intro e owner now
      cases unset.symm.trans now

theorem Driver.Sourced.next (sourced : d.Sourced i log) (run : Process.Run p log)
    (there : p.driver? i = some d) :
    (d.perform p.host .next).2.1.Sourced i (⟨i, .next, reply, delivered⟩ :: log) := by
  cases state : d.state with
  | idle =>
    simp only [Driver.perform, next_of_idle state]
    exact sourced.later _
  | capturing =>
    simp only [Driver.perform, next_of_capturing state]
    have progress := (d.engine.next_advances p.host).progress
    generalize (d.engine.next p.host).2.1 = g' at progress
    generalize (d.engine.next p.host).2.2 = h' at progress
    cases progress with
    | still same unset =>
      constructor
      · intro s opened
        exact (sourced.later _).stream s (same.symm.trans opened)
      · intro e owner now
        cases unset.symm.trans now
    | barren finished opened draws left unset =>
      refine sourced.draws run there opened draws left ?_
      intro e now
      cases unset.symm.trans now
    | took finished opened draws left drawn =>
      refine sourced.draws run there opened draws left ?_
      intro e now
      exact ⟨_, rfl, drawn e now⟩

theorem Driver.Sourced.perform (sourced : d.Sourced i log) (run : Process.Run p log)
    (there : p.driver? i = some d) (c : DriverCall π) :
    (d.perform p.host c).2.1.Sourced i (⟨i, c, reply, delivered⟩ :: log) := by
  cases opens : (d.perform p.host c).1.opens with
  | true => exact .opens run there opens
  | false =>
    cases step : c.isNext with
    | false =>
      obtain ⟨registry, extractors, collector, same⟩ := d.perform_kept p.host step opens
      rw [same]
      obtain ⟨stream, current⟩ := sourced.later ⟨i, c, reply, delivered⟩
      exact ⟨stream, current⟩
    | true =>
      cases c with
      | next => exact sourced.next run there
      | _ => cases step

end Steps

namespace Process
variable {p : Process π ι} {log : List (Exchange π)} {d : Driver ι} {i : Nat}

theorem Run.sourced (run : Run p log) (there : p.driver? i = some d) : d.Sourced i log := by
  refine Run.tracks_in (fun i log _ d => d.Sourced i log) ?_ ?_ ?_ ?_ run there
  · intro i log h id hostname flags unlogged
    exact ⟨by simp [Engine.fresh], by simp [Engine.fresh]⟩
  · intro i log h h' d later sourced
    exact sourced
  · intro i p log d c run alive sourced
    exact sourced.perform run alive c
  · intro i log h d x other sourced
    exact sourced.later x

/-- The plugin of a source was registered by the driver, and generates events for it. -/
theorem Fed.owner {owner : Handle} {source : String} {state : ι} {events : List BatchEvent}
    (fed : Fed i owner source log state events) :
    owner ∈ registeredBy i log ∧ owner.manifest.generates = some source := by
  have grows : ∀ (x : Exchange π) older, registeredBy i older ⊆ registeredBy i (x :: older) :=
    fun x older => registeredBy_grows i [x] older
  induction fed with
  | opened run there found generates answer =>
    refine ⟨grows _ _ ?_, generates⟩
    rw [← run.plugins_eq there]
    exact List.mem_of_find?_eq_some found
  | asked fed run there opened answer ih => exact ⟨grows _ _ ih.1, ih.2⟩
  | later x fed ih => exact ⟨grows _ _ ih.1, ih.2⟩

theorem Generated.registered {owner : Handle} {e : Event} (generated : Generated i owner log e) :
    owner ∈ registeredBy i log := by
  obtain ⟨source, state, events, fed, _⟩ := generated
  exact fed.owner.1

end Process

end Sources

end EventProbe
