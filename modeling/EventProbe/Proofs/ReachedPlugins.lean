import EventProbe.Proofs.EngineCounters
import EventProbe.Proofs.OpenedSources
import EventProbe.Proofs.PanicSafety

/-! What reaches the plugins that parse events. Such a plugin is changed by the events that it is shown
and by nothing else, if it is still and generates none itself, so that these events, and how it was made,
tell its state in a run. Without panics the counters tell how many events there were. -/
namespace EventProbe

/-- The event gets past these plugins: all that read it accept it. -/
def Arrival.Passes [Plugin π ι] (a : Arrival π) (plugins : List Handle) : Prop :=
  ∀ q ∈ plugins, a.reads q = true → a.accepts q = true

instance [Plugin π ι] (a : Arrival π) (plugins : List Handle) : Decidable (a.Passes plugins) :=
  inferInstanceAs (Decidable (∀ _ ∈ _, _ → _))

def Plugin.after [Plugin π ι] (s : π) (events : List Event) : π :=
  events.foldl (fun s e => (Plugin.parse s e).2) s

section Shown
variable [Plugin π ι] {g g' : Engine ι} {h h' : Host π} {a : Arrival π} {p q : Handle} {s : π}
  {before after : List Handle} {slot : Nat}

theorem Plugin.after_append (s : π) (events later : List Event) :
    Plugin.after s (events ++ later) = Plugin.after (Plugin.after s events) later :=
  List.foldl_append

theorem Host.Keeps.parse_other (keeps : h.Keeps p s) (ne : q.slot ≠ p.slot) (e : Event) :
    (h.parse q e).2.Keeps p s :=
  (h.call_other ne _ _ _).trans keeps

/-! ## Steps -/

/-- Among the plugins that an event is shown to, one is changed if the event reaches it, and the plugins
after it do not matter. -/
theorem Arrival.Fresh.offer_keeps (fresh : a.Fresh h (before ++ p :: after))
    (houses : h.Houses (before ++ p :: after)) (keeps : h.Keeps p s) :
    (Engine.offer h a.event (before ++ p :: after)).2.Keeps p
      (if a.Reaches before p then (Plugin.parse s a.event).2 else s) := by
  induction before generalizing h with
  | nil =>
    have others : ∀ q ∈ after, q.manifest.can .eventParsing = true → q.slot ≠ p.slot :=
      fun q known _ => ((List.pairwise_cons.mp houses.distinct).1 q known).symm
    obtain ⟨_, shown⟩ := keeps.parse a.event
    rw [List.nil_append]
    simp only [reaches_nil]
    cases reads : a.reads p with
    | false =>
      rw [offer_of_not_reads reads]
      exact (Engine.offer_slot others h a.event).trans keeps
    | true =>
      by_cases accepted : (h.parse p a.event).1 = .ok ()
      · rw [offer_of_accepts reads accepted]
        exact (Engine.offer_slot others _ a.event).trans shown
      · rw [offer_of_refuses reads accepted]
        exact shown
  | cons q before ih =>
    have ne : q.slot ≠ p.slot := (List.pairwise_cons.mp houses.distinct).1 p (by simp)
    have others := keeps.parse_other ne a.event
    have later := (h.parse_continues q a.event).manifests
    rw [List.cons_append]
    simp only [reaches_cons]
    cases reads : a.reads q with
    | false =>
      rw [offer_of_not_reads reads]
      simpa using ih (List.forall_mem_cons.mp fresh).2 houses.tail keeps
    | true =>
      by_cases accepted : (h.parse q a.event).1 = .ok ()
      · rw [offer_of_accepts reads accepted]
        simpa [fresh.accepts_iff.mpr accepted] using
          ih (fresh.later houses) (houses.tail.later later) others
      · have refuses := Bool.eq_false_iff.mpr fun accepts => accepted (fresh.accepts_iff.mp accepts)
        rw [offer_of_refuses reads accepted]
        simpa [refuses] using others

/-- A step of an engine asks its source, and shows what arrives to its plugins. -/
theorem Engine.Advance.arrives (step : Advance g h e result g' h')
    (spared : ∀ s, g.source = some s → s.Spares slot) : g.arrival h = none ∧ h.Leaves slot h' ∨
      ∃ a, g.arrival h = some a ∧ h.Leaves slot a.host ∧
        h' = (offer a.host a.event g.registry.plugins).2 := by
  have pulls : ∀ {s gave s' between}, g.source = some s → s.pull h = (gave, s', between) →
      h.Leaves slot between := by
    intro s gave s' between opened pulled
    have pulls := Source.pull_leaves (spared s opened) h
    rwa [pulled] at pulls
  cases step with
  | ended finished => exact .inl ⟨by simp only [arrival, finished], .refl slot h⟩
  | closed finished closed => exact .inl ⟨by simp only [arrival, finished, closed], .refl slot h⟩
  | interrupted finished opened pulled | timeout finished opened pulled | eof finished opened pulled
  | failed finished opened pulled =>
    exact .inl ⟨by simp only [arrival, finished, opened, pulled], pulls opened pulled⟩
  | delivered finished opened pulled offered | refused finished opened pulled offered
  | parsePanicked finished opened pulled offered =>
    have arrives := (arrival_of_event finished opened pulled).1
    exact .inr ⟨_, arrives, pulls opened pulled, by rw [offered]⟩

/-- A step shows a plugin the event that arrives, if it reaches the plugin. -/
theorem Engine.next_keeps (houses : h.Houses g.registry.plugins)
    (split : g.registry.plugins = before ++ p :: after)
    (spared : ∀ s, g.source = some s → s.Spares p.slot) (keeps : h.Keeps p s)
    (still : Plugin.Still s) : (g.next h).2.2.Keeps p
      (Plugin.after s (((g.arrival h).toList.filter (·.Reaches before p)).map Arrival.event)) := by
  obtain ⟨none, leaves⟩ | ⟨a, came, leaves, shown⟩ := (g.next_advances h).arrives spared
  · rw [none]
    exact keeps.later still leaves
  · have kept := keeps.later still leaves
    have step := (g.next_advances h).takes
    have houses' : a.host.Houses g.registry.plugins := by
      obtain ⟨none, _⟩ | ⟨b, came', takes⟩ := step
      · cases none.symm.trans came
      · cases came.symm.trans came'
        exact houses.later takes.continues.manifests
    have fresh : a.Fresh a.host (before ++ p :: after) := fun _ _ => rfl
    rw [split] at houses' shown
    rw [shown, came]
    have offered := fresh.offer_keeps houses' kept
    by_cases reaches : a.Reaches before p
    · simpa [reaches, Plugin.after] using offered
    · simpa [reaches, Plugin.after] using offered

end Shown

/-! ## Runs -/

section Runs
variable [Plugin π ι]

/-- The event that a call takes from the source of its driver, and the process then. -/
def Stage.arrival (s : Stage π ι) : Option (Arrival π) :=
  match s.driver.state with
  | .capturing => if s.call.isNext then s.driver.engine.arrival s.host else none
  | .idle => none

def arrivalsBy (i : Nat) (stages : List (Stage π ι)) : List (Arrival π) :=
  stages.reverse.filterMap fun s => if s.place = i then s.arrival else none

/-- Those of them that got past these plugins. -/
def passedBy (i : Nat) (plugins : List Handle) (stages : List (Stage π ι)) : List Event :=
  ((arrivalsBy i stages).filter (·.Passes plugins)).map Arrival.event

variable {i : Nat} {d : Driver ι} {h : Host π} {c : DriverCall π} {r : Handle} {s : π}
  {before after : List Handle} {p : Process π ι} {stage registering : Stage π ι}
  {stages newer older : List (Stage π ι)}

theorem arrivalsBy_append (i : Nat) (newer older : List (Stage π ι)) :
    arrivalsBy i (newer ++ older) = arrivalsBy i older ++ arrivalsBy i newer := by
  simp only [arrivalsBy, List.reverse_append, List.filterMap_append]

theorem arrivalsBy_own (i : Nat) (d : Driver ι) (h : Host π) (c : DriverCall π) :
    arrivalsBy i (⟨i, d, h, c⟩ :: stages) =
      arrivalsBy i stages ++ (Stage.arrival ⟨i, d, h, c⟩).toList := by
  simp only [arrivalsBy, List.reverse_cons, List.filterMap_append]
  cases arrives : Stage.arrival ⟨i, d, h, c⟩ <;> simp [arrives]

theorem arrivalsBy_other (other : stage.place ≠ i) :
    arrivalsBy i (stage :: stages) = arrivalsBy i stages := by
  simp [arrivalsBy, other]

theorem arrivalsBy_eq_nil (nothing : ∀ s ∈ stages, s.place = i → s.arrival = none) :
    arrivalsBy i stages = [] := by
  apply List.filterMap_eq_nil_iff.mpr
  intro s noted
  have nothing := nothing s (List.mem_reverse.mp noted)
  by_cases own : s.place = i
  · simp [own, nothing own]
  · simp [own]

/-- All events get past plugins that parse none. -/
theorem passedBy_of_silent (silent : ∀ q ∈ before, q.manifest.can .eventParsing = false)
    (stages : List (Stage π ι)) :
    passedBy i before stages = (arrivalsBy i stages).map Arrival.event := by
  rw [passedBy, List.filter_eq_self.mpr]
  intro a _
  rw [decide_eq_true_iff]
  intro q known reads
  simp [Arrival.reads, Handle.parses, silent q known] at reads

/-- An event reaches a plugin if it gets past those before it and the plugin reads it. -/
theorem map_reaching (arrivals : List (Arrival π)) (before : List Handle) (r : Handle) :
    (arrivals.filter (·.Reaches before r)).map Arrival.event =
      ((arrivals.filter (·.Passes before)).map Arrival.event).filter (r.parses ·.source) := by
  rw [List.filter_map, List.filter_filter]
  congr 1
  apply List.filter_congr
  intro a _
  rw [Bool.eq_iff_iff, Bool.and_eq_true, decide_eq_true_iff, decide_eq_true_iff]
  exact Iff.rfl

section Calls

theorem Stage.arrival_of_rest (rest : c.isNext = false) (i : Nat) (d : Driver ι) (h : Host π) :
    Stage.arrival ⟨i, d, h, c⟩ = none := by
  simp only [arrival, rest, Bool.false_eq_true, if_false]
  split <;> rfl

theorem Stage.arrival_of_idle (idle : d.state = .idle) (i : Nat) (h : Host π) (c : DriverCall π) :
    Stage.arrival ⟨i, d, h, c⟩ = none := by
  simp only [arrival, idle]

theorem Stage.arrival_of_capturing (capturing : d.state = .capturing) (i : Nat) (h : Host π) :
    Stage.arrival ⟨i, d, h, .next⟩ = d.engine.arrival h := by
  simp only [arrival, capturing, DriverCall.isNext, if_true]

namespace Driver

/-- A call of a driver shows a still plugin that generates no events what reaches it. -/
theorem perform_keeps (houses : h.Houses d.engine.registry.plugins)
    (split : d.engine.registry.plugins = before ++ r :: after)
    (spared : ∀ s, d.engine.source = some s → s.Spares r.slot) (keeps : h.Keeps r s)
    (still : Plugin.Still s) (i : Nat) (c : DriverCall π) : (d.perform h c).2.2.Keeps r (Plugin.after s
      (((Stage.arrival ⟨i, d, h, c⟩).toList.filter (·.Reaches before r)).map Arrival.event)) := by
  cases step : c.isNext with
  | false =>
    rw [Stage.arrival_of_rest step]
    exact keeps.later still (d.perform_leaves_rest h step)
  | true =>
    cases DriverCall.eq_next step
    cases state : d.state with
    | idle =>
      simp only [Stage.arrival_of_idle state, perform, next_of_idle state]
      exact keeps
    | capturing =>
      simp only [Stage.arrival_of_capturing state, perform, next_of_capturing state]
      exact Engine.next_keeps houses split spared keeps still

/-- A call that no panic ends counts the event that it takes, as delivered or as dropped. -/
theorem perform_counts (houses : h.Houses d.engine.registry.plugins) (ends : d.engine.EndsWell)
    (calm : (d.perform h c).1.panic? = none) (i : Nat) :
    (d.perform h c).2.1.engine.counters.events + (d.perform h c).2.1.engine.counters.drops =
      d.engine.counters.events + d.engine.counters.drops +
        (Stage.arrival ⟨i, d, h, c⟩).toList.length := by
  cases step : c.isNext with
  | false =>
    have effect : Effect d (d.perform h c).2.1 := d.perform_effect h (by simp [step])
    generalize (d.perform h c).2.1 = d' at effect
    rw [Stage.arrival_of_rest step]
    cases effect <;> rfl
  | true =>
    cases DriverCall.eq_next step
    cases state : d.state with
    | idle =>
      simp only [Stage.arrival_of_idle state, perform, next_of_idle state]
      rfl
    | capturing =>
      have counts := Turn.counts_next houses ends
      have calm : Turn.panics ⟨d.engine, h, .next⟩ = false := by
        simp only [perform, next_of_capturing state] at calm
        simp only [Turn.panics, Turn.reply, Engine.perform]
        cases answer : (d.engine.next h).1 with
        | ok status => rfl
        | error panic =>
          rw [answer] at calm
          cases calm
      have events : (d.engine.next h).2.1.counters.events = _ := counts.events
      have drops : (d.engine.next h).2.1.counters.drops = _ := counts.drops
      have arrives : d.engine.arrival h = Turn.arrival ⟨d.engine, h, .next⟩ := rfl
      simp only [perform, next_of_capturing state, Stage.arrival_of_capturing state, arrives,
        Option.length_toList, counts.taken calm, events, drops]
      omega

end Driver

end Calls

namespace Process

/-- The source of a driver is not one of a plugin that generates no events. -/
theorem Run.source_spares {log : List (Exchange π)} (run : Run p log) (there : p.driver? i = some d)
    (known : r ∈ registeredBy i log) (sourceless : r.manifest.generates = none) :
    ∀ s, d.engine.source = some s → s.Spares r.slot := by
  intro s opened
  cases s with
  | capture records => trivial
  | plugin stream =>
    obtain ⟨events, fed, _⟩ := (run.sourced there).stream stream opened
    obtain ⟨registered, generates⟩ := fed.owner
    intro same
    cases (run.houses there).eq_of_slot registered known same
    cases sourceless.symm.trans generates

/-- A plugin that a driver has registered is what the events that have reached it since then have made
of it, if it generates no events itself and is still otherwise. -/
theorem Trail.keeps_reached {plugin : Descriptor π} {config : String}
    (trail : Trail p (newer ++ registering :: older)) (there : p.driver? i = some d)
    (registers : registering.exchange = ⟨i, .register plugin config, .registered (.ok r), none⟩)
    (made : plugin.init config = .ok s) (still : ∀ events, Plugin.Still (Plugin.after s events))
    (sourceless : r.manifest.generates = none) : p.host.Keeps r (Plugin.after s
      ((passedBy i (registeredBy i (older.map Stage.exchange)) newer).filter (r.parses ·.source))) := by
  obtain ⟨place, call, answer, _⟩ := Exchange.mk.inj registers
  generalize known : registeredBy i (older.map Stage.exchange) = before
  generalize split : newer ++ registering :: older = stages at trail
  suffices holds : (∃ after, d.engine.registry.plugins = before ++ r :: after) ∧ p.host.Keeps r
      (Plugin.after s ((passedBy i before newer).filter (r.parses ·.source))) from holds.2
  revert newer
  refine Trail.tracks (fun stages h d => ∀ {newer}, newer ++ registering :: older = stages →
    (∃ after, d.engine.registry.plugins = before ++ r :: after) ∧ h.Keeps r
      (Plugin.after s ((passedBy i before newer).filter (r.parses ·.source)))) ?_ ?_ ?_ ?_ trail there
  · rintro stages h id hostname flags unnoted newer rfl
    exact absurd place (unnoted registering (by simp))
  · intro stages h h' d leaves holds newer split
    obtain ⟨⟨after, plugins⟩, keeps⟩ := holds split
    refine ⟨⟨after, plugins⟩, keeps.later (still _) (leaves r ?_)⟩
    simp [plugins]
  · intro p stages d c trail there holds newer split
    have run := trail.run
    have registry := (d.perform_registers p.host c).1
    cases newer with
    | nil =>
      obtain ⟨rfl, rfl⟩ := List.cons.inj split
      dsimp only at call answer
      subst call
      obtain ⟨s', _, made', keeps⟩ := Driver.register_made answer
      cases made.symm.trans made'
      refine ⟨⟨[], ?_⟩, keeps⟩
      rw [registry, run.plugins_eq there, known, answer]
      rfl
    | cons newest newer =>
      obtain ⟨rfl, rest⟩ := List.cons.inj split
      obtain ⟨⟨after, plugins⟩, keeps⟩ := holds rest
      have registered := run.plugins_eq there
      have houses := run.houses there
      rw [← registered] at houses
      have spared := run.source_spares there (by rw [← registered, plugins]; simp) sourceless
      refine ⟨⟨after ++ (d.perform p.host c).1.registered?.toList, ?_⟩, ?_⟩
      · rw [registry, plugins, List.append_assoc, List.cons_append]
      · have kept := Driver.perform_keeps houses plugins spared keeps (still _) i c
        rw [← Plugin.after_append, map_reaching, ← List.filter_append] at kept
        rw [passedBy, arrivalsBy_own, List.filter_append, List.map_append]
        exact kept
  · intro stages h d stage other holds newer split
    cases newer with
    | nil =>
      obtain ⟨rfl, rfl⟩ := List.cons.inj split
      exact absurd place other
    | cons newest newer =>
      obtain ⟨rfl, rest⟩ := List.cons.inj split
      rw [passedBy, arrivalsBy_other other]
      exact holds rest

/-- Without panics in the steps of a driver, each event that it took was delivered or dropped. -/
theorem Trail.counts_arrivals (trail : Trail p stages) (there : p.driver? i = some d)
    (calm : ∀ s ∈ stages, s.place = i → s.exchange.reply.panic? = none) :
    d.engine.counters.events + d.engine.counters.drops = (arrivalsBy i stages).length := by
  revert calm
  refine Trail.tracks (fun stages _ d => (∀ s ∈ stages, s.place = i → s.exchange.reply.panic? = none) →
    d.engine.counters.events + d.engine.counters.drops = (arrivalsBy i stages).length) ?_ ?_ ?_ ?_
    trail there
  · intro stages h id hostname flags unnoted calm
    rw [arrivalsBy_eq_nil fun s noted own => absurd own (unnoted s noted)]
    rfl
  · intro stages h h' d leaves holds
    exact holds
  · intro p stages d c trail there holds calm
    obtain ⟨quiet, calm⟩ := List.forall_mem_cons.mp calm
    have houses := trail.run.houses there
    rw [← trail.run.plugins_eq there] at houses
    have ends := (trail.run.sound.tracked i d there).ends
    rw [arrivalsBy_own, List.length_append, ← holds calm]
    exact Driver.perform_counts houses ends (quiet rfl) i
  · intro stages h d stage other holds calm
    rw [arrivalsBy_other other]
    exact holds (List.forall_mem_cons.mp calm).2

/-- A driver that has opened no source took no events. -/
theorem Trail.arrivalsBy_unopened (trail : Trail p stages)
    (unopened : opensBy i (stages.map Stage.exchange) = []) : arrivalsBy i stages = [] := by
  apply arrivalsBy_eq_nil
  rintro s noted rfl
  obtain ⟨newer, older, rfl⟩ := List.append_of_mem noted
  obtain ⟨q, earlier, there, _⟩ := trail.stage
  have count := earlier.run.opened there
  have before : opensBy s.place (older.map Stage.exchange) = [] := by
    rw [opensBy, List.filter_eq_nil_iff] at unopened ⊢
    intro x logged
    apply unopened
    simp [logged]
  cases state : s.driver.state with
  | idle => exact Stage.arrival_of_idle state _ _ _
  | capturing => simp [Driver.Opened, before, state] at count

end Process

end Runs

end EventProbe
