import EventProbe.Proofs.StreamQueue
import EventProbe.Proofs.Unobtrusive

/-! Captures that follow others. An engine that opens a source is, but for its counters, like a new one
with the same plugins that opens this source, whatever it captured before. The two take the same steps
as long as their plugins are in the same states. -/
namespace EventProbe

/-! ## Plugins in the same states -/

/-- Processes in which these plugins are in the same states, at the same time. Other plugins and the
calls so far may differ. -/
structure Host.AgreeOn (plugins : List Handle) (h k : Host π) : Prop where
  slots : ∀ p ∈ plugins, h.slots[p.slot]? = k.slots[p.slot]?
  environment : h.environment = k.environment
  now : h.now = k.now

namespace Host.AgreeOn
variable {plugins : List Handle} {p : Handle} {h k : Host π}

/-- A call of one of the plugins has the same answer, and only the state of this plugin changes. -/
theorem call (same : h.AgreeOn plugins k) (inside : p ∈ plugins) (action : Action) (absent : α)
    (run : π → α × π) :
    Agree (Host.AgreeOn plugins) (h.call p.slot action absent run)
      (k.call p.slot action absent run) := by
  have here := same.slots p inside
  unfold Host.call
  rw [here]
  cases found : k.slots[p.slot]? with
  | none => exact .intro _ same
  | some s =>
    rw [found] at here
    refine .intro _ ⟨?_, same.environment, same.now⟩
    intro q inside'
    have there := same.slots q inside'
    have bound := (List.getElem?_eq_some_iff.mp here).1
    have bound' := (List.getElem?_eq_some_iff.mp found).1
    by_cases own : p.slot = q.slot
    · rw [own] at bound bound'
      simp [Host.record, own, bound, bound']
    · simpa [Host.record, List.getElem?_set_ne own] using there

variable [Plugin π ι]

theorem nextBatch (same : h.AgreeOn plugins k) (inside : p ∈ plugins) (state : ι) :
    Agree (fun x y => x.1 = y.1 ∧ x.2.AgreeOn plugins y.2) (h.nextBatch p state)
      (k.nextBatch p state) := by
  let run (s : π) : (Except Panic Batch × ι) × π :=
    let asked := Plugin.nextBatch s state
    ((asked.1, asked.2.2), asked.2.1)
  have called := same.call inside .nextBatch (.ok .endOfStream, state) run
  have answer := called.answer
  exact .of_eq (congrArg (·.1) answer) ⟨congrArg (·.2) answer, called.state⟩

theorem openSource (same : h.AgreeOn plugins k) (inside : p ∈ plugins) (params : String) :
    Agree (Host.AgreeOn plugins) (h.openSource p params) (k.openSource p params) :=
  same.call inside _ _ _

theorem offer (same : h.AgreeOn plugins k) (e : Event) {list : List Handle}
    (inside : ∀ p ∈ list, p ∈ plugins) :
    Agree (Host.AgreeOn plugins) (Engine.offer h e list) (Engine.offer k e list) := by
  induction list generalizing h k with
  | nil => exact .intro _ same
  | cons p rest ih =>
    obtain ⟨first, inside⟩ := List.forall_mem_cons.mp inside
    unfold Engine.offer
    split
    · have shown : Agree (Host.AgreeOn plugins) (h.parse p e) (k.parse p e) := same.call first _ _ _
      generalize h.parse p e = answer at shown
      generalize k.parse p e = answer' at shown
      obtain ⟨outcome, same'⟩ := shown
      cases outcome with
      | ok _ => exact ih same' inside
      | failed reason => exact .intro _ same'
      | panicked panic => exact .intro _ same'
    · exact ih same inside

end Host.AgreeOn

/-! ## One step -/

/-- The counters of a capture, counted on from where an earlier one stopped. -/
def Counters.plus (base c : Counters) : Counters :=
  ⟨base.events + c.events, base.timeouts + c.timeouts, base.drops + c.drops⟩

/-- The source is a capture file or belongs to one of the plugins. -/
def Source.OwnedBy (plugins : List Handle) : Source ι → Prop
  | .capture _ => True
  | .plugin stream => stream.owner ∈ plugins

theorem Source.OwnedBy.pull [Plugin π ι] {plugins : List Handle} {s : Source ι} {h k : Host π}
    (owned : s.OwnedBy plugins) (same : h.AgreeOn plugins k) :
    Agree (fun x y => x.1 = y.1 ∧ x.1.OwnedBy plugins ∧ x.2.AgreeOn plugins y.2) (s.pull h)
      (s.pull k) := by
  cases s with
  | capture records =>
    cases records with
    | nil => exact .intro _ ⟨rfl, trivial, same⟩
    | cons r rest => exact .intro _ ⟨rfl, trivial, same⟩
  | plugin stream =>
    obtain ⟨owner, source, state, pending⟩ := stream
    cases pending with
    | cons e rest =>
      simp only [Source.pull, PluginStream.pull, PluginStream.raw, same.now]
      exact .intro _ ⟨rfl, owned, same⟩
    | nil =>
      have asked := same.nextBatch owned state
      simp only [Source.pull, PluginStream.pull, PluginStream.raw]
      generalize h.nextBatch owner state = answer at asked
      generalize k.nextBatch owner state = answer' at asked
      obtain @⟨⟨state, h'⟩, ⟨_, k'⟩, batch, rfl, same'⟩ := asked
      dsimp only at same' ⊢
      rw [same'.now]
      rcases batch with p | (_ | ⟨e, rest⟩) | _ | _ | reason <;>
        exact .intro _ ⟨rfl, owned, same'⟩

namespace Engine
variable {plugins : List Handle} {g f : Engine ι} {h k : Host π} {base : Counters}

/-- The first engine is like the second one, but counted more before. -/
structure Continues (base : Counters) (plugins : List Handle) (g f : Engine ι) : Prop where
  same : g = { f with counters := base.plus f.counters }
  registry : f.registry.plugins = plugins
  owned : ∀ s, f.source = some s → s.OwnedBy plugins

/-- Such engines, in processes in which their plugins are in the same states. -/
def Alongside (base : Counters) (plugins : List Handle) (x y : Engine ι × Host π) : Prop :=
  x.1.Continues base plugins y.1 ∧ x.2.AgreeOn plugins y.2

variable [Plugin π ι]

theorem Continues.deliver (continues : g.Continues base plugins f) (same : h.AgreeOn plugins k)
    (raw : RawEvent) :
    Agree (Alongside base plugins) (g.deliver h raw) (f.deliver k raw) := by
  obtain ⟨rfl, registry, owned⟩ := continues
  have inside : ∀ p ∈ f.registry.plugins, p ∈ plugins := by simp [registry]
  have offered := same.offer (f.number raw) inside
  have number : number { f with counters := base.plus f.counters } raw = f.number raw := rfl
  simp only [Engine.deliver, number]
  generalize offer h (f.number raw) f.registry.plugins = answer at offered
  generalize offer k (f.number raw) f.registry.plugins = answer' at offered
  obtain ⟨outcome, same'⟩ := offered
  cases outcome with
  | ok _ => exact .intro _ ⟨⟨rfl, registry, owned⟩, same'⟩
  | failed reason => exact .intro _ ⟨⟨rfl, registry, owned⟩, same'⟩
  | panicked panic => exact .intro _ ⟨⟨rfl, registry, owned⟩, same'⟩

theorem Continues.next (continues : g.Continues base plugins f) (same : h.AgreeOn plugins k) :
    Agree (Alongside base plugins) (g.next h) (f.next k) := by
  obtain ⟨rfl, registry, owned⟩ := continues
  obtain ⟨hostname, reg, source, platform, current, nextNum, finished, counters⟩ := f
  cases finished with
  | some status => exact .intro _ ⟨⟨rfl, registry, owned⟩, same⟩
  | none =>
    cases source with
    | none => exact .intro _ ⟨⟨rfl, registry, owned⟩, same⟩
    | some s =>
      have pulled := (owned s rfl).pull same
      simp only [Engine.next]
      generalize s.pull h = answer at pulled
      generalize s.pull k = answer' at pulled
      obtain @⟨⟨s', h'⟩, ⟨_, k'⟩, result, rfl, owned', same'⟩ := pulled
      have owned'' : ∀ s, some s' = some s → s.OwnedBy plugins := by
        rintro s ⟨⟩
        exact owned'
      rcases result with p | (raw | _ | _ | reason)
      · exact .intro _ ⟨⟨rfl, registry, owned''⟩, same'⟩
      · have delivering : Continues base plugins _
            ⟨hostname, reg, some s', platform, none, nextNum, none, counters⟩ :=
          ⟨rfl, registry, owned''⟩
        exact delivering.deliver same' raw
      · exact .intro _ ⟨⟨rfl, registry, owned''⟩, same'⟩
      · exact .intro _ ⟨⟨rfl, registry, owned''⟩, same'⟩
      · exact .intro _ ⟨⟨rfl, registry, owned''⟩, same'⟩

end Engine

/-! ## The same source, opened by a new engine -/

/-- What an operation asks the platform of events to be. -/
def EngineCall.platform (environment : Environment) (hostname : Option String) :
    EngineCall π → Option Platform
  | .openPlugin _ _ true => some (.detect environment hostname)
  | _ => none

/-- A new engine with the same plugins. -/
def Engine.anew (g : Engine ι) : Engine ι :=
  { Engine.fresh g.hostname with registry := g.registry }

section Openings
variable [Plugin π ι]

/-- Two engines, each in its own process, that take steps together. Between two steps the rest of both
processes goes on, and leaves the plugins of the engines in the same states. -/
inductive Engine.Abreast (plugins : List Handle) (g₀ : Engine ι) (h₀ : Host π) (f₀ : Engine ι)
    (k₀ : Host π) : Engine ι → Host π → Engine ι → Host π → List (Turn π ι × Turn π ι) → Prop where
  | start : Abreast plugins g₀ h₀ f₀ k₀ g₀ h₀ f₀ k₀ []
  | elsewhere {steps} (h' k' : Host π) : Abreast plugins g₀ h₀ f₀ k₀ g h f k steps →
      h'.AgreeOn plugins k' → Abreast plugins g₀ h₀ f₀ k₀ g h' f k' steps
  | next {steps} : Abreast plugins g₀ h₀ f₀ k₀ g h f k steps →
      Abreast plugins g₀ h₀ f₀ k₀ (g.next h).2.1 (g.next h).2.2 (f.next k).2.1 (f.next k).2.2
        ((⟨g, h, .next⟩, ⟨f, k, .next⟩) :: steps)

/-- What is kept while an engine takes steps together with a new one. -/
structure Engine.Abreast.Kept (base : Counters) (plugins : List Handle) (platform : Option Platform)
    (g : Engine ι) (h : Host π) (f : Engine ι) (k : Host π) (steps : List (Turn π ι × Turn π ι)) :
    Prop where
  after : Engine.Alongside base plugins (g, h) (f, k)
  nextNum : g.nextNum = steps.countP (·.1.arrival.isSome)
  platform : g.platform = platform
  replies : ∀ s ∈ steps, s.1.reply = s.2.reply
  events : ∀ s ∈ steps, s.1.after.current = s.2.after.current

variable {g f : Engine ι} {h k : Host π} {c : EngineCall π}

/-- An engine has opened a source as a new one would do. -/
structure Engine.OpensAnew (g : Engine ι) (h k : Host π) (c : EngineCall π) : Prop where
  reply : (g.anew.perform k c).1 = (g.perform h c).1
  after : Engine.Alongside g.counters g.registry.plugins (g.perform h c).2 (g.anew.perform k c).2
  current : (g.perform h c).2.1.current = none
  nextNum : (g.perform h c).2.1.nextNum = 0
  platform : (g.perform h c).2.1.platform = c.platform h.environment g.hostname

theorem Engine.opens_capture {file : Except IoFault (List UInt8)}
    (same : h.AgreeOn g.registry.plugins k)
    (opens : (g.perform h (.openCapture file)).1.opens = true) :
    g.OpensAnew h k (.openCapture file) := by
  obtain ⟨fault, refused⟩ | ⟨closed, bytes, contents, rfl, accepted, started⟩ :=
    g.openCapture_cases file
  · simp [perform, refused, Outcome.ofExcept, EngineReply.opens] at opens
  · have new : g.anew.openCapture (.ok bytes) =
        (.ok (), g.anew.start (.capture contents.records) none) := by
      simp [openCapture, isCapturing, anew, fresh, accepted]
    constructor
    · simp [perform, started, new]
    · simp only [perform, started, new]
      refine ⟨⟨rfl, rfl, ?_⟩, same⟩
      rintro s ⟨⟩
      trivial
    all_goals simp [perform, started, start, EngineCall.platform]

theorem Engine.opens_plugin {name params : String} {platform : Bool}
    (same : h.AgreeOn g.registry.plugins k)
    (opens : (g.perform h (.openPlugin name params platform)).1.opens = true) :
    g.OpensAnew h k (.openPlugin name params platform) := by
  obtain ⟨refused, _⟩ | ⟨closed, owner, source, state, h', found, generates, answer, started⟩ :=
    g.openPlugin_cases h name params platform
  · rcases result : g.openPlugin h name params platform with ⟨_ | reason | panic, g', h'⟩
    · simp [result] at refused
    all_goals simp [perform, result, EngineReply.opens] at opens
  · have inside := List.mem_of_find?_eq_some found
    have opened := same.openSource inside params
    have environment := (h.openSource_continues owner params).environment
    rw [answer] at opened environment
    dsimp only at environment
    generalize answered : k.openSource owner params = answer' at opened
    obtain @⟨_, k', _, same'⟩ := opened
    have new : g.anew.openPlugin k name params platform =
        (.ok (), g.anew.start (.plugin ⟨owner, source, state, []⟩)
          (if platform then some (Platform.detect k'.environment g.hostname) else none), k') := by
      simp [openPlugin, isCapturing, anew, fresh, found, generates, answered]
    constructor
    · simp [perform, started, new]
    · simp only [perform, started, new, ← same'.environment]
      refine ⟨⟨rfl, rfl, ?_⟩, same'⟩
      rintro s ⟨⟩
      exact inside
    · simp [perform, started, start]
    · simp [perform, started, start]
    · cases platform <;> simp [perform, started, start, EngineCall.platform, environment]

theorem Engine.opens_anew (same : h.AgreeOn g.registry.plugins k)
    (opens : (g.perform h c).1.opens = true) : g.OpensAnew h k c := by
  cases c with
  | openCapture file => exact opens_capture same opens
  | openPlugin name params platform => exact opens_plugin same opens
  | register | next | stop | shutdown => cases opens

namespace Engine.Abreast
variable {plugins : List Handle} {base : Counters} {platform : Option Platform}
  {g₀ f₀ : Engine ι} {h₀ k₀ : Host π} {steps : List (Turn π ι × Turn π ι)}

theorem Kept.next (kept : Kept base plugins platform g h f k steps) :
    Kept base plugins platform (g.next h).2.1 (g.next h).2.2 (f.next k).2.1 (f.next k).2.2
      ((⟨g, h, .next⟩, ⟨f, k, .next⟩) :: steps) := by
  have agree := kept.after.1.next kept.after.2
  have step := g.next_advances h
  have moves := step.moves
  constructor
  · exact agree.state
  · have used := moves.used
    have taken := congrArg Option.isSome moves.event
    rw [used, kept.nextNum, List.countP_cons]
    simp only [Option.isSome_map] at taken
    simp only [Turn.arrival, taken]
    cases g.taken h <;> rfl
  · rw [step.platform_eq, kept.platform]
  · refine List.forall_mem_cons.mpr ⟨?_, kept.replies⟩
    exact congrArg EngineReply.stepped agree.answer
  · refine List.forall_mem_cons.mpr ⟨?_, kept.events⟩
    simp only [Turn.after, perform]
    rw [agree.state.1.same]

theorem kept (abreast : Abreast plugins g₀ h₀ f₀ k₀ g h f k steps)
    (first : Kept base plugins platform g₀ h₀ f₀ k₀ []) :
    Kept base plugins platform g h f k steps := by
  induction abreast with
  | start => exact first
  | elsewhere h' k' _ same ih => exact { ih with after := ⟨ih.after.1, same⟩ }
  | next _ ih => exact ih.next

/-- A logged pair of steps was taken together. -/
theorem split {s : Turn π ι × Turn π ι} {newer older : List (Turn π ι × Turn π ι)}
    (abreast : Abreast plugins g₀ h₀ f₀ k₀ g h f k (newer ++ s :: older)) :
    s.1.call = .next ∧
      Abreast plugins g₀ h₀ f₀ k₀ s.1.engine s.1.host s.2.engine s.2.host older := by
  generalize whole : newer ++ s :: older = steps at abreast
  induction abreast generalizing newer with
  | start => simp at whole
  | elsewhere h' k' _ _ ih => exact ih whole
  | next abreast ih =>
    cases newer with
    | nil =>
      obtain ⟨rfl, rfl⟩ := List.cons.inj whole
      exact ⟨rfl, abreast⟩
    | cons u newer => exact ih (List.cons.inj whole).2

end Engine.Abreast

/-- An engine that opens a source, whatever it did before, is like a new engine with the same plugins in
the same states that opens this source. The new one opens it too, and from there both have the same
answers and the same current events, none before the first step. The events carry the platform that was
asked for this time, and the numbers from zero of those that were taken. The counters go on from their
values at the opening. -/
theorem Engine.opens_as_new (g : Engine ι) (h k : Host π) (c : EngineCall π)
    (same : h.AgreeOn g.registry.plugins k) (opens : (g.perform h c).1.opens = true) :
    (g.anew.perform k c).1 = (g.perform h c).1 ∧
    (g.perform h c).2.1.current = none ∧
    (g.perform h c).2.2.AgreeOn g.registry.plugins (g.anew.perform k c).2.2 ∧
    ∀ g' h' f' k' steps,
      Abreast g.registry.plugins (g.perform h c).2.1 (g.perform h c).2.2
        (g.anew.perform k c).2.1 (g.anew.perform k c).2.2 g' h' f' k' steps →
      g'.counters = g.counters.plus f'.counters ∧
      (∀ s ∈ steps, s.1.reply = s.2.reply ∧ s.1.after.current = s.2.after.current) ∧
      ∀ newer s older e, steps = newer ++ s :: older → s.1.after.current = some e →
        e.num = older.countP (·.1.arrival.isSome) ∧
          e.platform = c.platform h.environment g.hostname := by
  have opened := opens_anew same opens
  refine ⟨opened.reply, opened.current, opened.after.2, ?_⟩
  intro g' h' f' k' steps abreast
  have first : Abreast.Kept g.counters g.registry.plugins (c.platform h.environment g.hostname)
      (g.perform h c).2.1 (g.perform h c).2.2 (g.anew.perform k c).2.1 (g.anew.perform k c).2.2 [] :=
    ⟨opened.after, opened.nextNum, opened.platform, by simp, by simp⟩
  have kept := abreast.kept first
  have same_steps : ∀ s ∈ steps, s.1.reply = s.2.reply ∧ s.1.after.current = s.2.after.current :=
    fun s logged => ⟨kept.replies s logged, kept.events s logged⟩
  refine ⟨congrArg counters kept.after.1.same, same_steps, ?_⟩
  rintro newer ⟨⟨engine, host, call⟩, other⟩ older e rfl delivered
  obtain ⟨next, before⟩ := abreast.split
  dsimp only at next before
  subst next
  have kept' := before.kept first
  have step := engine.next_advances host
  have delivers : engine.delivery host = some e := by
    rw [← step.current_eq]
    exact delivered
  rw [delivers] at step
  exact ⟨step.delivered_num.1.trans kept'.nextNum, step.delivered_platform.trans kept'.platform⟩

end Openings

/-- A capture of three letters, of which the second is refused, is stopped before the third. -/
def Engine.interrupted :
    Engine Scripted.Stream × Host Scripted × List (Turn Scripted Scripted.Stream) :=
  let script : Scripted := ⟨none, none, .labelled "", [], [], []⟩
  let letters : Batch := .events [⟨some 7, [97]⟩, ⟨none, [98]⟩, ⟨some 9, [99]⟩]
  (fresh none).play (Host.fresh .bare) [] [
    .register (Scripted.descriptor (Scripted.plain "source" .eventSourcing (some "letters")) none
      { script with steps := some [.batch letters] }) "",
    .register (Scripted.descriptor (Scripted.plain "picky" .eventParsing none) none
      { script with parsing := [([98], .fail "not this one")] }) "",
    .openPlugin "source" "" true, .next, .next, .stop]

/-- Its number, platform and waiting letter are left behind when the source is opened again. -/
theorem Engine.interrupted_opens_as_new :
    let g := interrupted.1
    let h := interrupted.2.1
    let c : EngineCall Scripted := .openPlugin "source" "" false
    let k := { h with journal := #[] }
    g.nextNum = 2 ∧ g.platform.isSome = true ∧ (g.perform h c).1.opens = true ∧
      ∃ g' h' f' k' s t,
        Abreast g.registry.plugins (g.perform h c).2.1 (g.perform h c).2.2
          (g.anew.perform k c).2.1 (g.anew.perform k c).2.2 g' h' f' k' [t, s] ∧
        s.1.after.current = s.2.after.current ∧ t.1.reply = t.2.reply ∧
        s.1.after.current = some ⟨0, 7, "letters", 322, [97], none, some ⟨0, Scripted.plain "source"
          .eventSourcing (some "letters")⟩⟩ ∧
        g'.counters = Counters.plus ⟨1, 0, 1⟩ f'.counters ∧ f'.counters = ⟨1, 0, 1⟩ := by
  have same : interrupted.2.1.AgreeOn interrupted.1.registry.plugins
      { interrupted.2.1 with journal := #[] } := ⟨fun _ _ => rfl, rfl, rfl⟩
  have base : interrupted.1.counters = ⟨1, 0, 1⟩ := by decide +kernel
  obtain ⟨_, _, _, later⟩ := opens_as_new interrupted.1 interrupted.2.1 _
    (.openPlugin "source" "" false) same (by decide +kernel)
  obtain ⟨counters, steps, _⟩ := later _ _ _ _ _ Abreast.start.next.next
  rw [base] at counters
  exact ⟨by decide +kernel, by decide +kernel, by decide +kernel, _, _, _, _, _, _,
    Abreast.start.next.next, (steps _ (.tail _ (.head _))).2, (steps _ (.head _)).1,
    by decide +kernel, counters, by decide +kernel⟩

end EventProbe
