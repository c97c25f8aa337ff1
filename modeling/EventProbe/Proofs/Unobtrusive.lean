import EventProbe.Proofs.HostHistory
import EventProbe.Proofs.Process
import EventProbe.Proofs.SteadyPlugins
import Mathlib.Data.List.Forall2

/-! Plugins that observers do not disturb. Two states of a process are alike if their plugins will
deliver and parse the same events; engines and drivers in such states take the same steps. -/
namespace EventProbe

/-- Two calls give the same answer, and leave what is related. -/
inductive Agree (related : X → Y → Prop) : α × X → α × Y → Prop where
  | intro (answer : α) : related x y → Agree related (answer, x) (answer, y)

theorem Agree.answer {a : α × X} {b : α × Y} (agree : Agree related a b) : a.1 = b.1 := by
  cases agree
  rfl

theorem Agree.state {a : α × X} {b : α × Y} (agree : Agree related a b) : related a.2 b.2 := by
  cases agree
  assumption

theorem Agree.of_eq {a : α × X} {b : α × Y} (answer : a.1 = b.1) (state : related a.2 b.2) :
    Agree related a b := by
  obtain ⟨answer', x⟩ := a
  cases answer
  exact .intro _ state

/-- Outcomes of the same kind, with values that are related or the same reason. -/
inductive Outcome.Alike (related : α → β → Prop) : Outcome ε α → Outcome ε β → Prop where
  | ok : related a b → Alike related (.ok a) (.ok b)
  | failed : Alike related (.failed reason) (.failed reason)
  | panicked : Alike related (.panicked p) (.panicked p)

/-- States that are the `same` deliver and parse the same events. Looking at a plugin, and failing to
open a source of it, leave it in a state that is the same. -/
structure Plugin.Unobtrusive [Plugin π ι] (same : π → π → Prop) (sameSource : ι → ι → Prop) :
    Prop where
  equivalence : Equivalence same
  sourceRefl : ∀ i, sameSource i i
  render : ∀ p e, same p (Plugin.render p e).2
  extract : ∀ p r, same p (Plugin.extract p r).2
  metrics : ∀ p, same p (Plugin.metrics p).2
  unopened : ∀ p params, (∀ i, (Plugin.openSource p params).1 ≠ .ok i) →
    same p (Plugin.openSource p params).2
  openSource : ∀ {p q}, same p q → ∀ params,
    Outcome.Alike sameSource (Plugin.openSource p params).1 (Plugin.openSource q params).1 ∧
      same (Plugin.openSource p params).2 (Plugin.openSource q params).2
  nextBatch : ∀ {p q i j}, same p q → sameSource i j →
    Agree (fun x y => same x.1 y.1 ∧ sameSource x.2 y.2) (Plugin.nextBatch p i)
      (Plugin.nextBatch q j)
  close : ∀ {p q i j}, same p q → sameSource i j → same (Plugin.close p i) (Plugin.close q j)
  parse : ∀ {p q}, same p q → ∀ e, Agree same (Plugin.parse p e) (Plugin.parse q e)

/-- Bundled plugins do not change when they are looked at. -/
theorem Plugin.unobtrusive_bundled :
    Plugin.Unobtrusive (π := Bundled) (ι := BundledSource) Eq Eq where
  equivalence := ⟨fun _ => rfl, Eq.symm, Eq.trans⟩
  sourceRefl _ := rfl
  render p e := (render_bundled p e).symm
  extract p r := (extract_bundled p r).symm
  metrics p := (metrics_bundled p).symm
  unopened p params _ := by rcases p with p | p | p | p | p <;> rfl
  openSource := by
    rintro p _ rfl params
    refine ⟨?_, rfl⟩
    rcases (Plugin.openSource p params).1 with i | reason | panic
    · exact .ok rfl
    · exact .failed
    · exact .panicked
  nextBatch := by
    rintro p _ i _ rfl rfl
    exact .intro _ ⟨rfl, rfl⟩
  close := by
    rintro p _ i _ rfl rfl
    rfl
  parse := by
    rintro p _ rfl e
    exact .intro _ rfl

/-! ## Hosts -/

/-- Slots of the same plugin, in states that are the same. -/
def Slot.Alike (same : π → π → Prop) (s t : Slot π) : Prop :=
  s.manifest = t.manifest ∧ same s.state t.state

/-- Processes that differ in what observers did to them. -/
structure Host.Alike (same : π → π → Prop) (h k : Host π) : Prop where
  slots : List.Forall₂ (Slot.Alike same) h.slots k.slots
  environment : h.environment = k.environment
  now : h.now = k.now
  drivers : h.drivers = k.drivers

section Lists
variable {related : α → β → Prop} {list : List α} {list' : List β}

theorem forall₂_set (all : List.Forall₂ related list list') (here : related a b) (i : Nat) :
    List.Forall₂ related (list.set i a) (list'.set i b) := by
  induction all generalizing i with
  | nil => exact .nil
  | cons first rest ih =>
    cases i with
    | zero => exact .cons here rest
    | succ i => exact .cons first (ih i)

theorem forall₂_getElem? (all : List.Forall₂ related list list') (i : Nat) :
    Option.Rel related list[i]? list'[i]? := by
  induction all generalizing i with
  | nil => exact .none
  | cons first rest ih =>
    cases i with
    | zero => exact .some first
    | succ i => exact ih i

end Lists

namespace Host.Alike
variable {same : π → π → Prop} {h k l : Host π}

theorem refl (equivalence : Equivalence same) (h : Host π) : Host.Alike same h h :=
  ⟨List.forall₂_same.mpr fun s _ => ⟨rfl, equivalence.refl s.state⟩, rfl, rfl, rfl⟩

theorem symm (equivalence : Equivalence same) (alike : Host.Alike same h k) :
    Host.Alike same k h :=
  ⟨(alike.slots.imp fun _ _ here => ⟨here.1.symm, equivalence.symm here.2⟩).flip,
    alike.environment.symm, alike.now.symm, alike.drivers.symm⟩

theorem trans (equivalence : Equivalence same) (first : Host.Alike same h k)
    (second : Host.Alike same k l) : Host.Alike same h l := by
  refine ⟨?_, first.environment.trans second.environment, first.now.trans second.now,
    first.drivers.trans second.drivers⟩
  -- Relations between lists of slots compose place by place.
  have slots := first.slots
  have slots' := second.slots
  generalize h.slots = a at slots
  generalize k.slots = b at slots slots'
  generalize l.slots = c at slots'
  induction slots generalizing c with
  | nil =>
    cases slots'
    exact .nil
  | cons here rest ih =>
    cases slots' with
    | cons here' rest' =>
      exact .cons ⟨here.1.trans here'.1, equivalence.trans here.2 here'.2⟩ (ih _ rest')

theorem record (alike : Host.Alike same h k) (slot slot' : Nat) (plugin plugin' : String)
    (action action' : Action) :
    Host.Alike same (h.record slot plugin action) (k.record slot' plugin' action') :=
  ⟨alike.slots, alike.environment, alike.now, alike.drivers⟩

theorem call (alike : Host.Alike same h k) (related : α → β → Prop) (run : π → α × π)
    (run' : π → β × π) (absent : α) (absent' : β) (slot : Nat) (action action' : Action)
    (absents : related absent absent')
    (runs : ∀ s t, same s t → related (run s).1 (run' t).1 ∧ same (run s).2 (run' t).2) :
    related (h.call slot action absent run).1 (k.call slot action' absent' run').1 ∧
      Host.Alike same (h.call slot action absent run).2 (k.call slot action' absent' run').2 := by
  have place := forall₂_getElem? alike.slots slot
  unfold Host.call
  cases found : h.slots[slot]? with
  | none =>
    rw [found] at place
    cases found' : k.slots[slot]? with
    | none => exact ⟨absents, alike⟩
    | some t => rw [found'] at place; cases place
  | some s =>
    rw [found] at place
    cases found' : k.slots[slot]? with
    | none => rw [found'] at place; cases place
    | some t =>
      rw [found'] at place
      cases place with
      | some here =>
        obtain ⟨result, state⟩ := runs s.state t.state here.2
        refine ⟨result, forall₂_set alike.slots ?_ slot, alike.environment, alike.now,
          alike.drivers⟩
        exact ⟨here.1, state⟩

/-- A call that leaves the plugin in a state that is the same. -/
theorem of_call (equivalence : Equivalence same) (h : Host π) (slot : Nat) (action : Action)
    (absent : α) {run : π → α × π}
    (kept : ∀ s, h.slots[slot]? = some s → same s.state (run s.state).2) :
    Host.Alike same h (h.call slot action absent run).2 := by
  unfold Host.call
  cases found : h.slots[slot]? with
  | none => exact refl equivalence h
  | some s =>
    -- Putting back the slot that was found changes nothing, so both sides set this place.
    have whole : h.slots = h.slots.set slot s := by
      obtain ⟨bound, rfl⟩ := List.getElem?_eq_some_iff.mp found
      exact (List.set_getElem_self bound).symm
    refine ⟨?_, rfl, rfl, rfl⟩
    have itself := (refl equivalence h).slots
    have changed := forall₂_set itself ⟨rfl, kept s found⟩ slot (a := s)
      (b := ⟨s.manifest, (run s.state).2⟩)
    rwa [← whole] at changed

end Host.Alike

section Streams
variable [Plugin π ι] {same : π → π → Prop} {sameSource : ι → ι → Prop} {h k : Host π}

theorem Plugin.Unobtrusive.observed (quiet : Plugin.Unobtrusive same sameSource) :
    Host.Observed (Host.Alike same) where
  refl := .refl quiet.equivalence
  trans := .trans quiet.equivalence
  render h _ e := .of_call quiet.equivalence h _ _ _ fun s _ => quiet.render s.state e
  extract h _ r := .of_call quiet.equivalence h _ _ _ fun s _ => quiet.extract s.state r
  metrics h _ := .of_call quiet.equivalence h _ _ _ fun s _ => quiet.metrics s.state

/-- Related states, in processes that are alike. -/
def Together (related : X → Y → Prop) (same : π → π → Prop) (x : X × Host π) (y : Y × Host π) :
    Prop :=
  related x.1 y.1 ∧ Host.Alike same x.2 y.2

namespace Host.Alike

theorem nextBatch (alike : Host.Alike same h k) (quiet : Plugin.Unobtrusive same sameSource)
    (p : Handle) (sources : sameSource i j) :
    Agree (Together sameSource same) (h.nextBatch p i) (k.nextBatch p j) := by
  let run (i : ι) (s : π) : (Except Panic Batch × ι) × π :=
    let asked := Plugin.nextBatch s i
    ((asked.1, asked.2.2), asked.2.1)
  have runs : ∀ s t, same s t →
      Agree sameSource (run i s).1 (run j t).1 ∧ same (run i s).2 (run j t).2 := by
    intro s t states
    have asked := quiet.nextBatch states sources
    exact ⟨.of_eq asked.answer asked.state.2, asked.state.1⟩
  have called := alike.call (Agree sameSource) (run i) (run j) (.ok .endOfStream, i)
    (.ok .endOfStream, j) p.slot .nextBatch .nextBatch (.intro _ sources) runs
  exact .of_eq called.1.answer ⟨called.1.state, called.2⟩

theorem parse (alike : Host.Alike same h k) (quiet : Plugin.Unobtrusive same sameSource)
    (p : Handle) (e : Event) : Agree (Host.Alike same) (h.parse p e) (k.parse p e) := by
  have called := alike.call Eq (Plugin.parse · e) (Plugin.parse · e) (.ok ()) (.ok ()) p.slot
    (.parse e) (.parse e) rfl fun s t states =>
      ⟨(quiet.parse states e).answer, (quiet.parse states e).state⟩
  exact .of_eq called.1 called.2

theorem offer (alike : Host.Alike same h k) (quiet : Plugin.Unobtrusive same sameSource) (e : Event)
    (plugins : List Handle) :
    Agree (Host.Alike same) (Engine.offer h e plugins) (Engine.offer k e plugins) := by
  induction plugins generalizing h k with
  | nil => exact .intro _ alike
  | cons p rest ih =>
    unfold Engine.offer
    split
    · have shown := alike.parse quiet p e
      generalize h.parse p e = first at shown
      generalize k.parse p e = second at shown
      obtain ⟨outcome, alike'⟩ := shown
      cases outcome with
      | ok _ => exact ih alike'
      | failed reason => exact .intro _ alike'
      | panicked panic => exact .intro _ alike'
    · exact ih alike

theorem openSource (alike : Host.Alike same h k) (quiet : Plugin.Unobtrusive same sameSource)
    (p : Handle) (params : String) :
    Outcome.Alike sameSource (h.openSource p params).1 (k.openSource p params).1 ∧
      Host.Alike same (h.openSource p params).2 (k.openSource p params).2 :=
  alike.call _ _ _ _ _ p.slot _ _ .failed fun _ _ states => quiet.openSource states params

theorem close (alike : Host.Alike same h k) (quiet : Plugin.Unobtrusive same sameSource)
    (p : Handle) (sources : sameSource i j) : Host.Alike same (h.close p i) (k.close p j) :=
  (alike.call (fun _ _ => True) _ _ () () p.slot _ _ trivial fun _ _ states =>
    ⟨trivial, quiet.close states sources⟩).2

end Host.Alike

/-- A process in which a source was not opened is like the one before. -/
theorem Plugin.Unobtrusive.unopenedSource (quiet : Plugin.Unobtrusive same sameSource)
    {p : Handle} {params : String} (refused : ∀ i, (h.openSource p params).1 ≠ .ok i) :
    Host.Alike same h (h.openSource p params).2 := by
  refine .of_call quiet.equivalence h _ _ _ fun s found => quiet.unopened s.state params ?_
  intro i opened
  refine refused i ?_
  simp only [Host.openSource, Host.call, found]
  exact opened

/-! ## Sources -/

/-- Sources with the same events left. -/
inductive Source.Alike (sameSource : ι → ι → Prop) : Source ι → Source ι → Prop where
  | capture : Alike sameSource (.capture records) (.capture records)
  | plugin : sameSource i j →
      Alike sameSource (.plugin ⟨owner, source, i, pending⟩) (.plugin ⟨owner, source, j, pending⟩)

section Sources
variable {s t : Source ι}

theorem Source.Alike.pull (alike : Source.Alike sameSource s t)
    (quiet : Plugin.Unobtrusive same sameSource) (hosts : Host.Alike same h k) :
    Agree (Together (Source.Alike sameSource) same) (s.pull h) (t.pull k) := by
  cases alike with
  | @capture records =>
    cases records with
    | nil => exact .intro _ ⟨.capture, hosts⟩
    | cons r rest => exact .intro _ ⟨.capture, hosts⟩
  | @plugin i j owner source pending sources =>
    cases pending with
    | cons e rest =>
      simp only [Source.pull, PluginStream.pull, PluginStream.raw, hosts.now]
      exact .intro _ ⟨.plugin sources, hosts⟩
    | nil =>
      have asked := hosts.nextBatch quiet owner sources
      simp only [Source.pull, PluginStream.pull, PluginStream.raw]
      generalize h.nextBatch owner i = first at asked
      generalize k.nextBatch owner j = second at asked
      obtain ⟨batch, sources', hosts'⟩ := asked
      rw [hosts'.now]
      rcases batch with p | (_ | ⟨e, rest⟩) | _ | _ | reason <;>
        exact .intro _ ⟨.plugin sources', hosts'⟩

theorem Source.Alike.close (alike : Source.Alike sameSource s t)
    (quiet : Plugin.Unobtrusive same sameSource) (hosts : Host.Alike same h k) :
    Host.Alike same (s.close h) (t.close k) := by
  cases alike with
  | capture => exact hosts
  | plugin sources => exact hosts.close quiet _ sources

theorem Source.Alike.refl (quiet : Plugin.Unobtrusive same sameSource) (s : Source ι) :
    Source.Alike sameSource s s := by
  cases s with
  | capture records => exact .capture
  | plugin stream => exact .plugin (quiet.sourceRefl stream.state)

end Sources

/-! ## Engines -/

/-- Engines that differ at most in what their sources are like inside. -/
inductive Engine.Alike (sameSource : ι → ι → Prop) (g : Engine ι) : Engine ι → Prop where
  | intro : Option.Rel (Source.Alike sameSource) g.source other →
      Alike sameSource g { g with source := other }

namespace Engine.Alike
variable {g g' : Engine ι}

theorem refl (quiet : Plugin.Unobtrusive same sameSource) (g : Engine ι) :
    Engine.Alike sameSource g g := by
  have own : Option.Rel (Source.Alike sameSource) g.source g.source := by
    cases g.source with
    | none => exact .none
    | some s => exact .some (.refl quiet s)
  exact .intro own

theorem isCapturing_eq (alike : Engine.Alike sameSource g g') :
    g.isCapturing = g'.isCapturing := by
  obtain ⟨sources⟩ := alike
  unfold isCapturing
  cases source : g.source with
  | none =>
    rw [source] at sources
    cases sources
    rfl
  | some s =>
    rw [source] at sources
    cases sources
    rfl

omit [Plugin π ι] in
theorem register (alike : Engine.Alike sameSource g g') (hosts : Host.Alike same h k)
    (equivalence : Equivalence same) (d : Descriptor π) (config : String) :
    Agree (Together (Engine.Alike sameSource) same) (g.register h d config)
      (g'.register k d config) := by
  obtain ⟨sources⟩ := alike
  have entered := hosts.record h.slots.length k.slots.length d.manifest.name d.manifest.name
    (.init config) (.init config)
  simp only [Engine.register, Registry.register]
  split
  · exact .intro _ ⟨.intro sources, hosts⟩
  split
  · exact .intro _ ⟨.intro sources, hosts⟩
  cases d.init config with
  | failed message => exact .intro _ ⟨.intro sources, entered⟩
  | panicked panic => exact .intro _ ⟨.intro sources, entered⟩
  | ok state =>
    dsimp only
    rw [hosts.slots.length_eq]
    refine .intro _ ⟨.intro sources, ?_, entered.environment, entered.now, entered.drivers⟩
    exact List.rel_append entered.slots (.cons ⟨rfl, equivalence.refl state⟩ .nil)

theorem openCapture (alike : Engine.Alike sameSource g g') (file : Except IoFault (List UInt8)) :
    Agree (Engine.Alike sameSource) (g.openCapture file) (g'.openCapture file) := by
  have closed := alike.isCapturing_eq
  unfold Engine.openCapture
  rw [← closed]
  split
  · exact .intro _ alike
  · obtain ⟨sources⟩ := alike
    split
    · exact .intro _ (.intro sources)
    · split
      · exact .intro _ (.intro sources)
      · exact .intro _ (.intro (.some .capture))

theorem openPlugin (alike : Engine.Alike sameSource g g')
    (quiet : Plugin.Unobtrusive same sameSource) (hosts : Host.Alike same h k)
    (name params : String) (platform : Bool) :
    Agree (Together (Engine.Alike sameSource) same) (g.openPlugin h name params platform)
      (g'.openPlugin k name params platform) := by
  have closed := alike.isCapturing_eq
  unfold Engine.openPlugin
  rw [← closed]
  split
  · exact .intro _ ⟨alike, hosts⟩
  obtain ⟨sources⟩ := alike
  dsimp only
  split
  · exact .intro _ ⟨.intro sources, hosts⟩
  · rename_i owner _
    split
    · exact .intro _ ⟨.intro sources, hosts⟩
    · rename_i source _
      obtain ⟨outcomes, hosts'⟩ := hosts.openSource quiet owner params
      generalize h.openSource owner params = first at outcomes hosts'
      generalize k.openSource owner params = second at outcomes hosts'
      obtain ⟨outcome, h'⟩ := first
      obtain ⟨outcome', k'⟩ := second
      dsimp only at outcomes hosts'
      cases outcomes with
      | ok states =>
        dsimp only
        rw [hosts'.environment]
        exact .intro _ ⟨.intro (.some (.plugin states)), hosts'⟩
      | failed => exact .intro _ ⟨.intro sources, hosts'⟩
      | panicked => exact .intro _ ⟨.intro sources, hosts'⟩

theorem deliver (alike : Engine.Alike sameSource g g')
    (quiet : Plugin.Unobtrusive same sameSource) (hosts : Host.Alike same h k) (raw : RawEvent) :
    Agree (Together (Engine.Alike sameSource) same) (g.deliver h raw) (g'.deliver k raw) := by
  cases alike with
  | @intro other sources =>
    have offered : Agree (Host.Alike same) (Engine.offer h (g.number raw) g.registry.plugins)
        (Engine.offer k (number { g with source := other } raw) g.registry.plugins) :=
      hosts.offer quiet _ _
    unfold Engine.deliver
    dsimp only
    generalize Engine.offer h (g.number raw) g.registry.plugins = first at offered
    generalize Engine.offer k (number { g with source := other } raw) g.registry.plugins = second
      at offered
    obtain ⟨outcome, hosts'⟩ := offered
    cases outcome with
    | ok _ => exact .intro _ ⟨.intro sources, hosts'⟩
    | failed reason => exact .intro _ ⟨.intro sources, hosts'⟩
    | panicked panic => exact .intro _ ⟨.intro sources, hosts'⟩

theorem next (alike : Engine.Alike sameSource g g') (quiet : Plugin.Unobtrusive same sameSource)
    (hosts : Host.Alike same h k) :
    Agree (Together (Engine.Alike sameSource) same) (g.next h) (g'.next k) := by
  obtain ⟨hostname, registry, source, platform, current, nextNum, finished, counters⟩ := g
  obtain ⟨sources⟩ := alike
  cases finished with
  | some status => exact .intro _ ⟨.intro sources, hosts⟩
  | none =>
    cases sources with
    | none => exact .intro _ ⟨.intro .none, hosts⟩
    | @some s t sources =>
      have pulled := sources.pull quiet hosts
      simp only [Engine.next]
      generalize s.pull h = first at pulled
      generalize t.pull k = second at pulled
      obtain ⟨result, sources', hosts'⟩ := pulled
      rcases result with p | (raw | _ | _ | reason)
      · exact .intro _ ⟨.intro (.some sources'), hosts'⟩
      · have delivering := Engine.Alike.intro (g := ⟨hostname, registry, some _, platform, none, nextNum,
          none, counters⟩) (.some sources')
        exact delivering.deliver quiet hosts' raw
      · exact .intro _ ⟨.intro (.some sources'), hosts'⟩
      · exact .intro _ ⟨.intro (.some sources'), hosts'⟩
      · exact .intro _ ⟨.intro (.some sources'), hosts'⟩

theorem shutdown (alike : Engine.Alike sameSource g g')
    (quiet : Plugin.Unobtrusive same sameSource) (hosts : Host.Alike same h k) :
    Host.Alike same (g.shutdown h).2 (g'.shutdown k).2 := by
  cases alike with
  | @intro other sources =>
    unfold Engine.shutdown stop
    dsimp only
    generalize g.source = own at sources
    cases sources with
    | none => exact hosts
    | some sources => exact sources.close quiet hosts

end Engine.Alike

/-- An engine that opens no source leaves a process that is like the one before. -/
theorem Plugin.Unobtrusive.unopened_engine (quiet : Plugin.Unobtrusive same sameSource)
    {g : Engine ι} {name params : String} {platform : Bool}
    (refused : (g.openPlugin h name params platform).1 ≠ .ok ()) :
    Host.Alike same h (g.openPlugin h name params platform).2.2 := by
  have itself := Host.Alike.refl quiet.equivalence h
  unfold Engine.openPlugin at refused ⊢
  split
  · exact itself
  · rename_i closed
    rw [if_neg closed] at refused
    cases found : g.registry.find? name with
    | none => exact itself
    | some owner =>
      rw [found] at refused
      cases generates : owner.manifest.generates with
      | none =>
        simp only [generates]
        exact itself
      | some source =>
        simp only [generates] at refused ⊢
        have left : (∀ i, (h.openSource owner params).1 ≠ .ok i) →
            Host.Alike same h (h.openSource owner params).2 := quiet.unopenedSource
        generalize h.openSource owner params = answer at refused left
        obtain ⟨outcome, h'⟩ := answer
        cases outcome with
        | ok state => exact absurd rfl refused
        | failed reason => exact left (by simp)
        | panicked panic => exact left (by simp)

/-- A plugin that is not registered leaves a process that is like the one before, and nothing in the
registry. -/
theorem Registry.register_refused (equivalence : Equivalence same) {r : Registry} {d : Descriptor π}
    {config : String} (refused : ∀ p, (r.register h d config).1 ≠ .ok p) :
    (r.register h d config).2.1 = r ∧ Host.Alike same h (r.register h d config).2.2 := by
  have itself := Host.Alike.refl equivalence h
  have attempt := r.register_attempt h d config
  generalize r.register h d config = answer at attempt refused
  cases attempt with
  | incapable | taken => exact ⟨rfl, itself⟩
  | refused | panicked => exact ⟨rfl, itself.slots, rfl, rfl, rfl⟩
  | held => exact absurd rfl (refused _)

end Streams

end EventProbe
