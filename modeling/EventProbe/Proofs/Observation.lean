import EventProbe.Proofs.PluginDelivery
import EventProbe.Proofs.Unobtrusive

/-! Looking at a driver does not disturb what it delivers. Calls that extract fields, read metrics, add
extractors or fail can be put anywhere into the run of a process: all drivers take the same steps. -/
namespace EventProbe

/-- Calls that look at a driver, and calls that were refused. -/
def DriverCall.observes : DriverCall π → Reply → Bool
  | .extractText _ _, _ => true
  | .extractWithOffsets _ _, _ => true
  | .metrics, _ => true
  | .addExtractors _ _, _ => true
  | .register _ _, .registered (.ok _) => false
  | .register _ _, _ => true
  | .openCapture _, .opened (.ok _) => false
  | .openCapture _, _ => true
  | .openPlugin _ _ _, .opened (.ok _) => false
  | .openPlugin _ _ _, _ => true
  | .next, _ => false

namespace Driver

/-- Drivers that differ in what observers did to them. -/
inductive Alike (sameSource : ι → ι → Prop) (d : Driver ι) : Driver ι → Prop where
  | intro (others : Extractors) (seen : Collector) : Engine.Alike sameSource d.engine engine' →
      Alike sameSource d ⟨d.id, engine', others, seen, d.state⟩

section Observers
variable [Plugin π ι] {same : π → π → Prop} {sameSource : ι → ι → Prop} {d e : Driver ι}
  {h k : Host π}

omit [Plugin π ι] in
theorem register_refused (equivalence : Equivalence same) {plugin : Descriptor π} {config : String}
    (refused : ∀ p, (d.register h plugin config).1 ≠ .ok p) :
    (d.register h plugin config).2.1 = d ∧ Host.Alike same h (d.register h plugin config).2.2 := by
  have kept : ∀ p, (d.engine.registry.register h plugin config).1 ≠ .ok p := by
    intro p registered
    refine refused p ?_
    simp only [register, Engine.register, registered, Outcome.mapReason]
  obtain ⟨registry, hosts⟩ := Registry.register_refused equivalence kept
  refine ⟨?_, hosts⟩
  simp only [register, Engine.register, registry]

omit [Plugin π ι] in
theorem openCapture_refused {file : Except IoFault (List UInt8)}
    (refused : (d.openCapture file).1 ≠ .ok ()) : (d.openCapture file).2 = d := by
  unfold openCapture at refused ⊢
  split
  · rfl
  · rename_i ready
    rcases d.engine.openCapture_cases file with ⟨fault, closed⟩ | ⟨_, _, _, _, _, started⟩
    · simp only [closed]
    · simp only [ready, started] at refused
      exact absurd rfl refused

theorem openPlugin_refused (quiet : Plugin.Unobtrusive same sameSource) {name params : String}
    {platform : Bool} (refused : (d.openPlugin h name params platform).1 ≠ .ok ()) :
    (d.openPlugin h name params platform).2.1 = d ∧
      Host.Alike same h (d.openPlugin h name params platform).2.2 := by
  unfold openPlugin at refused ⊢
  split
  · exact ⟨rfl, .refl quiet.equivalence h⟩
  · rename_i ready
    rcases d.engine.openPlugin_cases h name params platform with
      ⟨closed, kept⟩ | ⟨_, _, _, _, _, _, _, _, started⟩
    · have hosts := quiet.unopened_engine closed
      generalize d.engine.openPlugin h name params platform = answer at closed kept hosts
      obtain ⟨outcome, g, h'⟩ := answer
      dsimp only at kept
      subst kept
      cases outcome with
      | ok _ => exact absurd rfl closed
      | failed fault => exact ⟨rfl, hosts⟩
      | panicked panic => exact ⟨rfl, hosts⟩
    · simp only [ready, started] at refused
      exact absurd rfl refused

/-- A call that only looks changes of the driver what observers may change, and of the process what
makes no difference. -/
theorem perform_observing (quiet : Plugin.Unobtrusive same sameSource) {c : DriverCall π}
    (observes : c.observes (d.perform h c).1 = true) :
    (∃ others seen, (d.perform h c).2.1 = { d with extractors := others, collector := seen }) ∧
      Host.Alike same h (d.perform h c).2.2 := by
  cases c with
  | next => cases observes
  | extractText field handle =>
    obtain ⟨others, changed⟩ := d.prepare_driver field handle
    rw [← extractText_driver d h] at changed
    exact ⟨⟨others, d.collector, changed⟩, quiet.observed.extractText d h field handle⟩
  | extractWithOffsets field handle =>
    obtain ⟨others, changed⟩ := d.prepare_driver field handle
    rw [← extractWithOffsets_driver d h] at changed
    exact ⟨⟨others, d.collector, changed⟩, quiet.observed.extractWithOffsets d h field handle⟩
  | metrics => exact ⟨⟨_, _, rfl⟩, quiet.observed.collect d.collector d.engine h⟩
  | addExtractors p source =>
    obtain ⟨others, changed⟩ := d.addExtractors_driver p source
    exact ⟨⟨others, d.collector, changed⟩, .refl quiet.equivalence h⟩
  | register plugin config =>
    have refused : ∀ p, (d.register h plugin config).1 ≠ .ok p := by
      intro p registered
      simp only [perform, registered] at observes
      cases observes
    obtain ⟨changed, hosts⟩ := register_refused quiet.equivalence refused
    exact ⟨⟨d.extractors, d.collector, changed⟩, hosts⟩
  | openCapture file =>
    have refused : (d.openCapture file).1 ≠ .ok () := by
      intro opened
      simp only [perform, opened, Outcome.ofExcept] at observes
      cases observes
    exact ⟨⟨d.extractors, d.collector, openCapture_refused refused⟩, .refl quiet.equivalence h⟩
  | openPlugin name params platform =>
    have refused : (d.openPlugin h name params platform).1 ≠ .ok () := by
      intro opened
      simp only [perform, opened] at observes
      cases observes
    obtain ⟨changed, hosts⟩ := openPlugin_refused quiet refused
    exact ⟨⟨d.extractors, d.collector, changed⟩, hosts⟩

theorem Alike.refl (quiet : Plugin.Unobtrusive same sameSource) (d : Driver ι) :
    Alike sameSource d d :=
  .intro d.extractors d.collector (.refl quiet d.engine)

omit [Plugin π ι] in
theorem Alike.counters_eq (alike : Alike sameSource d e) : d.engine.counters = e.engine.counters := by
  obtain ⟨_, _, engines⟩ := alike
  cases engines
  rfl

omit [Plugin π ι] in
theorem Alike.name_eq (alike : Alike sameSource d e) : d.id = e.id ∧ d.state = e.state := by
  obtain ⟨_, _, _⟩ := alike
  exact ⟨rfl, rfl⟩

theorem Alike.delivery_eq (alike : Alike sameSource d e) (quiet : Plugin.Unobtrusive same sameSource)
    (hosts : Host.Alike same h k) : d.delivery h = e.delivery k := by
  cases alike with
  | @intro engine others seen engines =>
    unfold delivery
    cases d.state with
    | idle => rfl
    | capturing =>
      have stepped := (engines.next quiet hosts).state.1
      have first := (d.engine.next_advances h).current_eq
      have second := (engine.next_advances k).current_eq
      dsimp only
      rw [← first, ← second]
      generalize (d.engine.next h).2.1 = g at stepped
      generalize (engine.next k).2.1 = g' at stepped
      cases stepped
      rfl

theorem Alike.next (alike : Alike sameSource d e) (quiet : Plugin.Unobtrusive same sameSource)
    (hosts : Host.Alike same h k) :
    Agree (Together (Alike sameSource) same) (d.next h) (e.next k) := by
  have delivered := alike.delivery_eq quiet hosts
  obtain ⟨id, stands⟩ := alike.name_eq
  cases state : d.state with
  | idle =>
    rw [next_of_idle state h, next_of_idle (stands.symm.trans state) k, id]
    exact .intro _ ⟨alike, hosts⟩
  | capturing =>
    have state' := stands.symm.trans state
    simp only [delivery, state, state'] at delivered
    rw [next_of_capturing state h, next_of_capturing state' k, id, delivered]
    cases alike with
    | @intro engine others seen engines =>
      have stepped := engines.next quiet hosts
      refine .of_eq ?_ ⟨.intro others seen stepped.state.1, stepped.state.2⟩
      dsimp only
      rw [stepped.answer]

omit [Plugin π ι] in
theorem Alike.watched (alike : Alike sameSource d e) (others others' : Extractors)
    (seen seen' : Collector) :
    Alike sameSource { d with extractors := others, collector := seen }
      { e with extractors := others', collector := seen' } := by
  obtain ⟨_, _, engines⟩ := alike
  exact .intro others' seen' engines

omit [Plugin π ι] in
theorem Alike.openCapture (alike : Alike sameSource d e) (file : Except IoFault (List UInt8)) :
    Alike sameSource (d.openCapture file).2 (e.openCapture file).2 := by
  cases alike with
  | @intro engine others seen engines =>
    have opened := engines.openCapture file
    simp only [Driver.openCapture, beginCapture]
    split
    · exact .intro others seen engines
    · generalize d.engine.openCapture file = first at opened
      generalize engine.openCapture file = second at opened
      obtain ⟨result, engines'⟩ := opened
      cases result with
      | error fault => exact .intro others seen engines'
      | ok _ => exact .intro others seen engines'

theorem Alike.openPlugin (alike : Alike sameSource d e) (quiet : Plugin.Unobtrusive same sameSource)
    (hosts : Host.Alike same h k) (name params : String) (platform : Bool) :
    Together (Alike sameSource) same (d.openPlugin h name params platform).2
      (e.openPlugin k name params platform).2 := by
  cases alike with
  | @intro engine others seen engines =>
    have opened := engines.openPlugin quiet hosts name params platform
    simp only [Driver.openPlugin, beginCapture]
    split
    · exact ⟨.intro others seen engines, hosts⟩
    · generalize d.engine.openPlugin h name params platform = first at opened
      generalize engine.openPlugin k name params platform = second at opened
      obtain ⟨result, engines', hosts'⟩ := opened
      cases result with
      | failed fault => exact ⟨.intro others seen engines', hosts'⟩
      | panicked panic => exact ⟨.intro others seen engines', hosts'⟩
      | ok _ => exact ⟨.intro others seen engines', hosts'⟩

omit [Plugin π ι] in
theorem Alike.register (alike : Alike sameSource d e) (equivalence : Equivalence same)
    (hosts : Host.Alike same h k) (plugin : Descriptor π) (config : String) :
    Together (Alike sameSource) same (d.register h plugin config).2
      (e.register k plugin config).2 := by
  obtain ⟨others, seen, engines⟩ := alike
  obtain ⟨engines', hosts'⟩ := (engines.register hosts equivalence plugin config).state
  exact ⟨.intro others seen engines', hosts'⟩

theorem Alike.perform (alike : Alike sameSource d e) (quiet : Plugin.Unobtrusive same sameSource)
    (hosts : Host.Alike same h k) (c : DriverCall π) :
    Together (Alike sameSource) same (d.perform h c).2 (e.perform k c).2 := by
  -- Calls that look whatever their reply change either driver on its own, and need no comparison.
  have looked : (∀ reply, c.observes reply = true) →
      Together (Alike sameSource) same (d.perform h c).2 (e.perform k c).2 := by
    intro observes
    obtain ⟨⟨others, seen, first⟩, hosts'⟩ := perform_observing quiet (d := d) (h := h) (observes _)
    obtain ⟨⟨others', seen', second⟩, hosts''⟩ :=
      perform_observing quiet (d := e) (h := k) (observes _)
    refine ⟨?_, ?_⟩
    · rw [first, second]
      exact alike.watched others others' seen seen'
    · exact quiet.observed.trans (.symm quiet.equivalence hosts') (quiet.observed.trans hosts hosts'')
  cases c with
  | next => exact (alike.next quiet hosts).state
  | extractText field handle => exact looked fun _ => rfl
  | extractWithOffsets field handle => exact looked fun _ => rfl
  | metrics => exact looked fun _ => rfl
  | addExtractors p source => exact looked fun _ => rfl
  | register plugin config => exact alike.register quiet.equivalence hosts plugin config
  | openCapture file => exact ⟨alike.openCapture file, hosts⟩
  | openPlugin name params platform => exact alike.openPlugin quiet hosts name params platform

theorem Alike.drop (alike : Alike sameSource d e) (quiet : Plugin.Unobtrusive same sameSource)
    (hosts : Host.Alike same h k) : Host.Alike same (d.drop h).2 (e.drop k).2 := by
  obtain ⟨_, _, engines⟩ := alike
  exact engines.shutdown quiet hosts

end Observers

end Driver

/-- What happens to the drivers of a process. -/
inductive Act (π : Type) where
  | create (settings : Config.Settings)
  | call (driver : Nat) (call : DriverCall π)
  | drop (driver : Nat)

/-- A step of a driver: its answer, the event it delivered, and what the engine had counted then. -/
structure Sighting where
  driver : Nat
  result : Except Panic (Status × EventHandle)
  event : Option Event
  counters : Counters

namespace Process

section Acts
variable [Plugin π ι]

/-- What happens at a moment, with what is seen if it is a step. A driver that is not there does
nothing. -/
def act (p : Process π ι) (m : Moment) : Act π → Option Sighting × Process π ι
  | .create settings => (none, create ⟨p.host.asOf m, p.drivers⟩ settings)
  | .call i c =>
    match p.driver? i with
    | none => (none, p)
    | some d =>
      let (_, d', h) := d.perform (p.host.asOf m) c
      (if c.isNext then
          some ⟨i, (d.next (p.host.asOf m)).1, d.delivery (p.host.asOf m), d'.engine.counters⟩
        else none,
        p.update i (some d') h)
  | .drop i =>
    match p.driver? i with
    | none => (none, p)
    | some d => (none, p.update i none (d.drop (p.host.asOf m)).2)

/-- All that is seen while things happen to a process, and the process afterwards. -/
def watch (p : Process π ι) : List (Moment × Act π) → List Sighting × Process π ι
  | [] => ([], p)
  | (m, a) :: rest =>
    let (seen, p) := p.act m a
    let (later, p) := p.watch rest
    (seen.toList ++ later, p)

def looks (p : Process π ι) (m : Moment) (i : Nat) (c : DriverCall π) : Bool :=
  match p.driver? i with
  | none => true
  | some d => c.observes (d.perform (p.host.asOf m) c).1

/-- The second run of a process is the first with calls put in that only look. -/
inductive Interspersed : Process π ι → List (Moment × Act π) → List (Moment × Act π) → Prop where
  | nil : Interspersed p [] []
  | both (m : Moment) (a : Act π) : Interspersed (p.act m a).2 base full →
      Interspersed p ((m, a) :: base) ((m, a) :: full)
  | extra (m : Moment) (i : Nat) (c : DriverCall π) : p.looks m i c = true →
      Interspersed (p.act m (.call i c)).2 base full →
      Interspersed p base ((m, .call i c) :: full)

end Acts

/-- Processes that differ in what observers did to them, and in when they were called last. -/
structure Alike (same : π → π → Prop) (sameSource : ι → ι → Prop) (p q : Process π ι) : Prop where
  host : ∀ m, Host.Alike same (p.host.asOf m) (q.host.asOf m)
  drivers : List.Forall₂ (Option.Rel (Driver.Alike sameSource)) p.drivers q.drivers

section Runs
variable [Plugin π ι] {same : π → π → Prop} {sameSource : ι → ι → Prop} {p q : Process π ι}

omit [Plugin π ι] in
theorem Alike.driver? (alike : Alike same sameSource p q) (i : Nat) :
    Option.Rel (Driver.Alike sameSource) (p.driver? i) (q.driver? i) := by
  have place := forall₂_getElem? alike.drivers i
  unfold Process.driver?
  generalize p.drivers[i]? = first at place
  generalize q.drivers[i]? = second at place
  cases place with
  | none => exact .none
  | some here => exact here

theorem Alike.refl (quiet : Plugin.Unobtrusive same sameSource) (p : Process π ι) :
    Alike same sameSource p p where
  host m := .refl quiet.equivalence _
  drivers := List.forall₂_same.mpr fun place _ => by
    cases place with
    | none => exact .none
    | some d => exact .some (.refl quiet d)

omit [Plugin π ι] in
theorem Alike.update (alike : Alike same sameSource p q) {h k : Host π} (hosts : Host.Alike same h k)
    {d e : Option (Driver ι)} (here : Option.Rel (Driver.Alike sameSource) d e) (i : Nat) :
    Alike same sameSource (p.update i d h) (q.update i e k) where
  host _ := ⟨hosts.slots, rfl, rfl, hosts.drivers⟩
  drivers := forall₂_set alike.drivers here i

theorem Alike.create (alike : Alike same sameSource p q)
    (quiet : Plugin.Unobtrusive same sameSource) (m : Moment) (settings : Config.Settings) :
    Alike same sameSource (Process.create ⟨p.host.asOf m, p.drivers⟩ settings)
      (Process.create ⟨q.host.asOf m, q.drivers⟩ settings) := by
  have hosts := alike.host m
  unfold Process.create Driver.withSettings
  cases settings.validate with
  | error reason => exact ⟨alike.host, alike.drivers⟩
  | ok _ =>
    dsimp only
    rw [hosts.drivers]
    refine ⟨fun _ => ⟨hosts.slots, rfl, rfl, rfl⟩, ?_⟩
    exact List.rel_append alike.drivers (.cons (.some (.refl quiet _)) .nil)

theorem Alike.act (alike : Alike same sameSource p q) (quiet : Plugin.Unobtrusive same sameSource)
    (m : Moment) (a : Act π) : Agree (Alike same sameSource) (p.act m a) (q.act m a) := by
  have hosts := alike.host m
  cases a with
  | create settings => exact .intro _ (Alike.create alike quiet m settings)
  | call i c =>
    have place := alike.driver? i
    unfold Process.act
    dsimp only
    generalize p.driver? i = first at place
    generalize q.driver? i = second at place
    cases place with
    | none => exact .intro _ alike
    | @some d e drivers =>
      have performed := drivers.perform quiet hosts c
      refine .of_eq ?_ (alike.update performed.2 (.some performed.1) i)
      dsimp only
      rw [(drivers.next quiet hosts).answer, drivers.delivery_eq quiet hosts,
        performed.1.counters_eq]
  | drop i =>
    have place := alike.driver? i
    unfold Process.act
    dsimp only
    generalize p.driver? i = first at place
    generalize q.driver? i = second at place
    cases place with
    | none => exact .intro _ alike
    | some drivers => exact .intro _ (alike.update (drivers.drop quiet hosts) .none i)

/-- After a call that only looks, a process is as alike as before, and nothing was seen. -/
theorem Alike.extra (alike : Alike same sameSource p q) (quiet : Plugin.Unobtrusive same sameSource)
    {m : Moment} {i : Nat} {c : DriverCall π} (looks : q.looks m i c = true) :
    (q.act m (.call i c)).1 = none ∧ Alike same sameSource p (q.act m (.call i c)).2 := by
  have place := alike.driver? i
  cases there : q.driver? i with
  | none =>
    have absent : q.act m (.call i c) = (none, q) := by simp only [Process.act, there]
    rw [absent]
    exact ⟨rfl, alike⟩
  | some e =>
    simp only [Process.looks, there] at looks
    rw [there] at place
    have still : c.isNext = false := by
      cases c with
      | next => cases looks
      | _ => rfl
    obtain ⟨⟨others, seen, changed⟩, hosts⟩ := Driver.perform_observing quiet looks
    have called : q.act m (.call i c) = (none, q.update i
        (some { e with extractors := others, collector := seen })
        (e.perform (q.host.asOf m) c).2.2) := by
      simp only [Process.act, there, still, changed, Bool.false_eq_true, if_false]
    rw [called]
    refine ⟨rfl, ?_⟩
    generalize own : p.driver? i = first at place
    cases place with
    | @some d _ drivers =>
      -- Only `q` is called. For `p` the call is an update that puts back the driver it has.
      have kept : p.drivers.set i (some d) = p.drivers := by
        obtain ⟨bound, here⟩ := List.getElem?_eq_some_iff.mp (driver?_eq_some.mp own)
        rw [← here, List.set_getElem_self]
      have hosts' := quiet.observed.trans (alike.host m) hosts
      have updated := alike.update hosts'
        (.some (drivers.watched d.extractors others d.collector seen)) i
      refine ⟨updated.host, ?_⟩
      have places := updated.drivers
      rwa [Process.update, kept] at places

theorem Alike.watch (quiet : Plugin.Unobtrusive same sameSource)
    {base full : List (Moment × Act π)} (inserted : Interspersed q base full)
    (alike : Alike same sameSource p q) :
    Agree (Alike same sameSource) (p.watch base) (q.watch full) := by
  -- A step of both runs keeps them alike, and a call that was put in moves only the second.
  induction inserted generalizing p with
  | nil => exact .intro _ alike
  | @both q base full m a inserted ih =>
    have happened := alike.act quiet m a
    have later := ih happened.state
    refine .of_eq ?_ later.state
    simp only [Process.watch, happened.answer, later.answer]
  | @extra q m i c base full looks inserted ih =>
    obtain ⟨unseen, alike'⟩ := alike.extra quiet looks
    have later := ih alike'
    refine .of_eq ?_ later.state
    simp only [Process.watch, unseen, later.answer, Option.toList_none, List.nil_append]

/-- Calls that only look, put in anywhere, change nothing of what the drivers of a process deliver,
answer to steps and count. -/
theorem watch_undisturbed (quiet : Plugin.Unobtrusive same sameSource)
    {base full : List (Moment × Act π)} (inserted : Interspersed p base full) :
    (p.watch base).1 = (p.watch full).1 ∧
      ∀ i, ((p.watch base).2.driver? i).map (·.engine.counters) =
        ((p.watch full).2.driver? i).map (·.engine.counters) := by
  have watched := Alike.watch quiet inserted (.refl quiet p)
  refine ⟨watched.answer, fun i => ?_⟩
  have place := watched.state.driver? i
  generalize (p.watch base).2.driver? i = first at place
  generalize (p.watch full).2.driver? i = second at place
  cases place with
  | none => rfl
  | some drivers => exact congrArg some drivers.counters_eq

end Runs

/-- A driver of ticks, which goes on after a failed open, extractions, metrics and a second
registration as if they had not been. -/
theorem ticks_undisturbed :
    let p : Process Bundled BundledSource := ⟨Host.fresh .bare, []⟩
    let now : Moment := ⟨.bare, 0⟩
    let tick (c : DriverCall Bundled) : Moment × Act Bundled := (now, .call 0 c)
    let base := [(now, .create .default), tick (.register Bundled.testSource "2"),
      tick (.openPlugin "test_source" "" false), tick .next, tick .next, tick .next]
    let full := [(now, .create .default), tick (.openCapture (.error .notFound)),
      tick (.register Bundled.testSource "2"), tick (.register Bundled.testSource "3"),
      tick (.openPlugin "test_source" "" false), tick .next,
      tick (.extractWithOffsets "test.tick" ⟨1, some 0⟩), tick .metrics, tick .next,
      tick (.extractText "evt.num" ⟨1, some 0⟩), tick (.openPlugin "test_source" "" false), tick .next]
    ((p.watch full).1.map fun seen => seen.event.map (·.num)) = [some 0, none, some 1] ∧
      (p.watch base).1 = (p.watch full).1 := by
  intro p now tick base full
  have inserted : p.Interspersed base full :=
    .both _ _ (.extra _ _ _ (by decide +kernel) (.both _ _ (.extra _ _ _ (by decide +kernel)
      (.both _ _ (.both _ _ (.extra _ _ _ (by decide +kernel) (.extra _ _ _ (by decide +kernel)
        (.both _ _ (.extra _ _ _ (by decide +kernel) (.extra _ _ _ (by decide +kernel)
          (.both _ _ .nil)))))))))))
  exact ⟨by decide +kernel, (watch_undisturbed Plugin.unobtrusive_bundled inserted).1⟩

end Process

end EventProbe
