import EventProbe.Proofs.HeldPlugins
import EventProbe.Proofs.ProcessTrails

/-! From the registration of a plugin to the steps of a driver that generates events with it. A still
plugin is as it was made until a source of it is opened; from then on, what the steps of the driver keep
holds whatever else happens in the process. -/
namespace EventProbe

/-- A driver has registered a plugin, which was in this state then. -/
def RegisteredAs (i : Nat) (log : List (Exchange π)) (r : Handle) (s : π) : Prop :=
  ∃ plugin config, plugin.init config = .ok s ∧
    ⟨i, .register plugin config, .registered (.ok r), none⟩ ∈ log

theorem DriverCall.eq_next {c : DriverCall π} (step : c.isNext = true) : c = .next := by
  cases c with
  | next => rfl
  | _ => cases step

theorem RegisteredAs.registered {i : Nat} {log : List (Exchange π)} {r : Handle} {s : π}
    (made : RegisteredAs i log r s) : r ∈ registeredBy i log := by
  obtain ⟨plugin, config, _, logged⟩ := made
  exact List.mem_filterMap.mpr ⟨_, List.mem_reverse.mpr logged, by simp [Reply.registered?]⟩

theorem Host.Houses.eq_of_slot {h : Host π} {plugins : List Handle} {q r : Handle}
    (houses : h.Houses plugins) (known : q ∈ plugins) (known' : r ∈ plugins)
    (same : q.slot = r.slot) : q = r := by
  have slots : (plugins.map Handle.slot).Nodup := List.pairwise_map.mpr houses.distinct
  exact List.inj_on_of_nodup_map slots known known' same

/-- A plugin is found under its name. -/
theorem Registry.find?_of_mem {g : Registry} {r : Handle} (distinct : g.names.Nodup)
    (known : r ∈ g.plugins) : g.find? r.name = some r := by
  obtain ⟨q, found, there, same⟩ := exists_first (List.mem_map_of_mem (f := Handle.name) known)
  rw [find?, found, List.inj_on_of_nodup_map distinct there known same]

section Sources
variable [Plugin π ι] {g g' : Engine ι} {d : Driver ι} {h h' : Host π} {slot : Nat}

/-! ## Steps of an engine whose plugins parse no events -/

section Steps
variable {s s' : Source ι} {raw : RawEvent}

theorem Engine.next_ended {status : Status} (ended : g.finished = some status) (h : Host π) :
    g.next h = (.ok status, { g with current := none }, h) ∧ g.delivery h = none := by
  simp only [next, delivery, ended, and_self]

theorem Engine.next_event (going : g.finished = none) (opened : g.source = some s)
    (pulled : s.pull h = (.ok (.event raw), s', h'))
    (quiet : ∀ q ∈ g.registry.plugins, q.manifest.can .eventParsing = false) :
    g.next h = (.ok .ok,
      countEvent { g with current := none, source := some s', nextNum := g.nextNum + 1 }
        (g.number raw), h') ∧ g.delivery h = some (g.number raw) := by
  simp only [next, delivery, going, opened, pulled, deliver, number, offer_quiet quiet, and_self]

theorem Engine.next_timeout (going : g.finished = none) (opened : g.source = some s)
    (pulled : s.pull h = (.ok .timeout, s', h')) :
    g.next h = (.ok .timeout, countTimeout { g with current := none, source := some s' }, h') ∧
      g.delivery h = none := by
  simp only [next, delivery, going, opened, pulled, and_self]

theorem Engine.next_eof (going : g.finished = none) (opened : g.source = some s)
    (pulled : s.pull h = (.ok .eof, s', h')) :
    g.next h = (.ok .eof, { g with current := none, source := some s', finished := some .eof }, h') ∧
      g.delivery h = none := by
  simp only [next, delivery, going, opened, pulled, and_self]

end Steps

/-! ## What steps keep -/

/-- A step keeps this and counts one more, if no plugin parses events; nothing else changes it that leaves
the plugin of the source as it is. -/
structure Engine.Persists (inv : Nat → Engine ι → Host π → Prop) (owner : Handle) : Prop where
  kept : ∀ k g h registry h', h.Leaves owner.slot h' → inv k g h → inv k { g with registry } h'
  next : ∀ k g h, (∀ q ∈ g.registry.plugins, q.manifest.can .eventParsing = false) →
    inv k g h → inv (k + 1) (g.next h).2.1 (g.next h).2.2

theorem Engine.Persists.perform {inv : Nat → Engine ι → Host π → Prop} {owner : Handle} {k : Nat}
    (persists : Engine.Persists inv owner) (capturing : d.state = .capturing)
    (quiet : ∀ q ∈ d.engine.registry.plugins, q.manifest.can .eventParsing = false)
    (holds : inv k d.engine h) (c : DriverCall π) : (d.perform h c).2.1.state = .capturing ∧
      inv (k + if c.isNext then 1 else 0) (d.perform h c).2.1.engine (d.perform h c).2.2 := by
  cases step : c.isNext with
  | false =>
    have effect : Driver.Effect d (d.perform h c).2.1 := d.perform_effect h (by simp [step])
    have leaves : h.Leaves owner.slot (d.perform h c).2.2 := d.perform_leaves_rest h step
    generalize (d.perform h c).2.1 = d' at effect
    cases effect with
    | kept registry extractors collector =>
      exact ⟨capturing, persists.kept _ _ _ registry _ leaves holds⟩
    | opened source platform idle => cases idle.symm.trans capturing
  | true =>
    cases DriverCall.eq_next step
    simp only [Driver.perform, Driver.next_of_capturing capturing]
    exact ⟨capturing, persists.next _ _ _ quiet holds⟩

/-- A source stays one of its plugin. -/
theorem Source.Spares.of_pull {s : Source ι} (spares : (s.pull h).2.1.Spares slot) : s.Spares slot := by
  cases s with
  | capture records => trivial
  | plugin stream =>
    have same : (stream.pull h).2.1.owner = stream.owner := by
      unfold PluginStream.pull
      dsimp only
      split
      · rfl
      · split <;> rfl
    have spares : (stream.pull h).2.1.owner.slot ≠ slot := spares
    rwa [same] at spares

theorem Engine.Advance.source_spared (step : Advance g h e result g' h')
    (spared : ∀ s, g'.source = some s → s.Spares slot) : ∀ s, g.source = some s → s.Spares slot := by
  intro s opened
  have pulls : ∀ {gave s' between}, s.pull h = (gave, s', between) → s'.Spares slot → s.Spares slot := by
    intro gave s' between pulled left
    apply Source.Spares.of_pull (h := h)
    rwa [pulled]
  cases step with
  | ended => exact spared s opened
  | closed => exact spared s opened
  | interrupted _ opened' pulled | timeout _ opened' pulled | eof _ opened' pulled
  | failed _ opened' pulled | delivered _ opened' pulled | refused _ opened' pulled
  | parsePanicked _ opened' pulled =>
    cases opened.symm.trans opened'
    exact pulls pulled (spared _ rfl)

theorem Driver.source_spared {c : DriverCall π}
    (spared : ∀ s, (d.perform h c).2.1.engine.source = some s → s.Spares slot) :
    ∀ s, d.engine.source = some s → s.Spares slot := by
  cases step : c.isNext with
  | false =>
    have effect : Effect d (d.perform h c).2.1 := d.perform_effect h (by simp [step])
    generalize (d.perform h c).2.1 = d' at effect spared
    cases effect with
    | kept => exact spared
    | opened source platform idle closed => simp [closed]
  | true =>
    cases c with
    | next =>
      cases state : d.state with
      | idle =>
        simp only [perform, next_of_idle state] at spared
        exact spared
      | capturing =>
        simp only [perform, next_of_capturing state] at spared
        exact (d.engine.next_advances h).source_spared spared
    | _ => cases step

/-- A plugin that a call has registered is as it was made. -/
theorem Driver.register_made {plugin : Descriptor π} {config : String} {r : Handle}
    (answer : (d.perform h (.register plugin config)).1 = .registered (.ok r)) :
    ∃ s, r.manifest = plugin.manifest ∧ plugin.init config = .ok s ∧
      (d.perform h (.register plugin config)).2.2.Keeps r s := by
  obtain ⟨failed, _, _⟩ | ⟨h', state, answer', slots, made⟩ :=
    d.engine.registry.register_cases h plugin config
  · have answer : ((d.engine.registry.register h plugin config).1.mapReason
        DriverFault.initialization) = .ok r := Reply.registered.inj answer
    cases result : (d.engine.registry.register h plugin config).1 with
    | ok p => exact absurd result (failed p)
    | failed | panicked =>
      rw [result] at answer
      cases answer
  · simp only [perform, register, Engine.register, answer'] at answer ⊢
    cases answer
    exact ⟨state, rfl, made, by simp [Host.Keeps, slots]⟩

/-- A driver that has opened a source of a plugin starts with it. -/
theorem Driver.openPlugin_started {name params : String} {platform : Bool}
    (opens : (d.perform h (.openPlugin name params platform)).1 = .opened (.ok ())) :
    ∃ owner source state detected h', d.engine.source = none ∧
      d.engine.registry.find? name = some owner ∧ owner.manifest.generates = some source ∧
      h.openSource owner params = (.ok state, h') ∧
      (d.perform h (.openPlugin name params platform)).2 =
        ({ d with engine := d.engine.start (.plugin ⟨owner, source, state, []⟩) detected,
                  state := .capturing }, h') := by
  cases state : d.state with
  | capturing =>
    simp only [perform, openPlugin_of_capturing state] at opens
    cases Reply.opened.inj opens
  | idle =>
    obtain ⟨fault, _, _, same⟩ | ⟨panic, _, _, same⟩ | ⟨g, h', started, same⟩ :=
      openPlugin_of_idle state h name params platform
    · simp only [perform, same] at opens
      cases Reply.opened.inj opens
    · simp only [perform, same] at opens
      cases Reply.opened.inj opens
    · obtain ⟨refused, _⟩ | ⟨closed, owner, source, state, h'', found, generates, answer, started'⟩ :=
        d.engine.openPlugin_cases h name params platform
      · simp [started] at refused
      · cases started.symm.trans started'
        refine ⟨owner, source, state,
          if platform then some (Platform.detect h'.environment d.engine.hostname) else none, h',
          closed, found, generates, answer, ?_⟩
        simp only [perform, same]

end Sources

namespace Process
variable [Plugin π ι] {p : Process π ι} {log newer older : List (Exchange π)} {d : Driver ι} {i : Nat}
  {x : Exchange π} {r : Handle} {s : π}

/-- A still plugin that parses no events is as it was made, unless the source of the driver is its
own. -/
theorem Run.rests (run : Run p log) (there : p.driver? i = some d) (made : RegisteredAs i log r s)
    (still : Plugin.Still s) (silent : r.manifest.can .eventParsing = false)
    (spared : ∀ source, d.engine.source = some source → source.Spares r.slot) : p.host.Keeps r s := by
  revert made spared
  suffices holds : RegisteredAs i log r s → r ∈ d.engine.registry.plugins ∧
      ((∀ source, d.engine.source = some source → source.Spares r.slot) → p.host.Keeps r s) from
    fun made => (holds made).2
  refine Run.tracks_still (fun log h d => RegisteredAs i log r s → r ∈ d.engine.registry.plugins ∧
    ((∀ source, d.engine.source = some source → source.Spares r.slot) → h.Keeps r s)) ?_ ?_ ?_ ?_
    run there
  · rintro log h id hostname flags unlogged ⟨plugin, config, _, logged⟩
    exact absurd rfl (unlogged _ logged)
  · intro log h h' d leaves holds made
    obtain ⟨known, keeps⟩ := holds made
    exact ⟨known, fun spared => (keeps spared).later still (leaves r known)⟩
  · rintro p log d c run there holds ⟨plugin, config, init, logged⟩
    rw [(d.perform_registers p.host c).1]
    obtain new | old := List.mem_cons.mp logged
    · obtain ⟨-, rfl, answer, -⟩ := Exchange.mk.inj new
      obtain ⟨state, _, made, keeps⟩ := Driver.register_made answer.symm
      cases init.symm.trans made
      refine ⟨?_, fun _ => keeps⟩
      simp [← answer, Reply.registered?]
    · obtain ⟨known, keeps⟩ := holds ⟨plugin, config, init, old⟩
      refine ⟨List.mem_append_left _ known, fun spared => ?_⟩
      have before := Driver.source_spared spared
      refine (keeps before).later still (Driver.perform_leaves ⟨before, ?_⟩ p.host c)
      intro q known' parses same
      have houses := run.houses there
      rw [← run.plugins_eq there] at houses
      cases houses.eq_of_slot known' known same
      cases silent.symm.trans parses
  · rintro log h d x other holds ⟨plugin, config, init, logged⟩
    obtain rfl | old := List.mem_cons.mp logged
    · exact absurd rfl other
    · exact holds ⟨plugin, config, init, old⟩

/-- When a driver has opened the source of a still plugin, the plugin is as it was made, and the engine
starts with the source that it opens. -/
theorem Run.started {name params : String} {platform : Bool} (run : Run p log)
    (there : p.driver? i = some d) (made : RegisteredAs i log r s) (still : Plugin.Still s)
    (silent : r.manifest.can .eventParsing = false) (named : r.name = name)
    (opens : (d.perform p.host (.openPlugin name params platform)).1 = .opened (.ok ())) :
    ∃ source state detected h', r.manifest.generates = some source ∧
      (Plugin.openSource s params).1 = .ok state ∧ h'.Keeps r s ∧
      (d.perform p.host (.openPlugin name params platform)).2 =
        ({ d with engine := d.engine.start (.plugin ⟨r, source, state, []⟩) detected,
                  state := .capturing }, h') := by
  obtain ⟨owner, source, state, detected, h', closed, found, generates, answer, started⟩ :=
    Driver.openPlugin_started opens
  have owned : owner = r := by
    have distinct := run.names_distinct there
    have known := made.registered
    rw [← run.plugins_eq there] at distinct known
    rw [← named, Registry.find?_of_mem distinct known] at found
    exact (Option.some.inj found).symm
  subst owned
  have keeps := run.rests there made still silent (by simp [closed])
  have kept := keeps.later still (p.host.openSource_leaves owner params)
  rw [answer] at kept
  refine ⟨source, state, detected, h', generates, ?_, kept, started⟩
  rw [← keeps.openSource, answer]

/-- What the steps of a driver keep, and other calls too, holds in every state since it opened a source,
by the number of steps since then. No registered plugin parses events. -/
theorem Run.since_open {inv : Nat → Engine ι → Host π → Prop}
    {owner : Handle} (persists : Engine.Persists inv owner)
    (start : ∀ p d, Run p older → p.driver? i = some d → (d.perform p.host x.call).1 = x.reply →
      owner ∈ d.engine.registry.plugins ∧
        inv 0 (d.perform p.host x.call).2.1.engine (d.perform p.host x.call).2.2)
    (run : Run p (newer ++ x :: older)) (there : p.driver? i = some d) (own : x.driver = i)
    (opens : x.reply.opens = true)
    (quiet : ∀ q ∈ registeredBy i (newer ++ x :: older), q.manifest.can .eventParsing = false) :
    d.state = .capturing ∧ inv (stepsBy i newer) d.engine p.host := by
  generalize split : newer ++ x :: older = log at run quiet
  suffices holds : d.state = .capturing ∧ owner ∈ d.engine.registry.plugins ∧
      inv (stepsBy i newer) d.engine p.host from ⟨holds.1, holds.2.2⟩
  revert newer quiet
  refine Run.tracks_still (fun log h d => ∀ {newer}, newer ++ x :: older = log →
    (∀ q ∈ registeredBy i log, q.manifest.can .eventParsing = false) → d.state = .capturing ∧
      owner ∈ d.engine.registry.plugins ∧ inv (stepsBy i newer) d.engine h) ?_ ?_ ?_ ?_ run there
  · rintro log h id hostname flags unlogged newer rfl quiet
    exact absurd own (unlogged x (by simp))
  · intro log h h' d leaves holds newer split quiet
    obtain ⟨capturing, known, inv⟩ := holds split quiet
    exact ⟨capturing, known, persists.kept _ d.engine h d.engine.registry h' (leaves owner known) inv⟩
  · intro p log d c run there holds newer split quiet
    rw [(d.perform_registers p.host c).1]
    cases newer with
    | nil =>
      obtain ⟨rfl, rfl⟩ := List.cons.inj split
      obtain ⟨known, inv⟩ := start p d run there rfl
      refine ⟨?_, List.mem_append_left _ known, inv⟩
      obtain ⟨_, _, capturing⟩ | ⟨closed, _⟩ := d.perform_state p.host c
      · exact capturing
      · cases opens.symm.trans closed
    | cons y newer =>
      obtain ⟨rfl, rest⟩ := List.cons.inj split
      rw [registeredBy_own] at quiet
      have earlier := fun q known => quiet q (List.mem_append_left _ known)
      obtain ⟨capturing, known, inv⟩ := holds rest earlier
      rw [← run.plugins_eq there] at earlier
      obtain ⟨capturing, inv⟩ := persists.perform capturing earlier inv c
      rw [stepsBy_own]
      exact ⟨capturing, List.mem_append_left _ known, inv⟩
  · intro log h d y other holds newer split quiet
    cases newer with
    | nil =>
      obtain ⟨rfl, rfl⟩ := List.cons.inj split
      exact absurd own other
    | cons z newer =>
      obtain ⟨rfl, rest⟩ := List.cons.inj split
      rw [registeredBy_other other] at quiet
      rw [stepsBy_other other]
      exact holds rest quiet

end Process

end EventProbe
