import EventProbe.Proofs.PluginSlots
import EventProbe.Proofs.Process
import EventProbe.Proofs.SteadyPlugins

/-! Calls that leave plugins as they are. Many plugins are changed only when they generate or parse
events; the slot of such a plugin stays the same unless a driver that generates events with it, or has
it parse them, takes a step. -/
namespace EventProbe

/-- To open a source, to show an event, to extract a field or to ask for metrics does not change a plugin
in this state. -/
structure Plugin.Still [Plugin π ι] (s : π) : Prop where
  openSource : ∀ params, (Plugin.openSource s params).2 = s
  render : ∀ e, (Plugin.render s e).2 = s
  extract : ∀ r, (Plugin.extract s r).2 = s
  metrics : (Plugin.metrics s).2 = s

/-- A later state of a process in which a slot holds what it held, if its plugin was still. -/
def Host.Leaves [Plugin π ι] (slot : Nat) (h h' : Host π) : Prop :=
  ∀ s, h.slots[slot]? = some s → Plugin.Still s.state → h'.slots[slot]? = some s

theorem Plugin.still_bundled [Plugin ρ κ] (s : Bundled) : Still (.inl s : Bundled ⊕ ρ) where
  openSource params := by rcases s with s | s | s | s | s <;> rfl
  render e := congrArg Sum.inl (render_bundled s e)
  extract r := congrArg Sum.inl (extract_bundled s r)
  metrics := congrArg Sum.inl (metrics_bundled s)

section Calls
variable [Plugin π ι] {slot : Nat} {h h' h'' : Host π} {p : Handle}

namespace Host

theorem Leaves.refl (slot : Nat) (h : Host π) : h.Leaves slot h :=
  fun _ held _ => held

theorem Leaves.trans (first : h.Leaves slot h') (second : h'.Leaves slot h'') : h.Leaves slot h'' :=
  fun s held still => second s (first s held still) still

theorem Leaves.of_slots (same : h'.slots[slot]? = h.slots[slot]?) : h.Leaves slot h' :=
  fun _ held _ => same.trans held

theorem call_leaves_other {called : Nat} (h : Host π) (ne : called ≠ slot) (action : Action)
    (absent : α) (run : π → α × π) : h.Leaves slot (h.call called action absent run).2 :=
  .of_slots (h.call_other ne action absent run)

/-- A call that changes no still plugin. -/
theorem call_leaves {run : π → α × π} (harmless : ∀ s, Plugin.Still s → (run s).2 = s) (h : Host π)
    (called : Nat) (action : Action) (absent : α) :
    h.Leaves slot (h.call called action absent run).2 := by
  by_cases same : called = slot
  · subst same
    intro s held still
    have bound := (List.getElem?_eq_some_iff.mp held).1
    simp only [call, held, record, List.getElem?_set_self bound, harmless s.state still]
  · exact h.call_leaves_other same action absent run

theorem openSource_leaves (h : Host π) (p : Handle) (params : String) :
    h.Leaves slot (h.openSource p params).2 :=
  call_leaves (fun _ still => still.openSource params) h _ _ _

theorem leaves_observed : Host.Observed (Leaves (π := π) slot) where
  refl := .refl slot
  trans := .trans
  render h _ e := call_leaves (fun _ still => still.render e) h _ _ _
  extract h _ r := call_leaves (fun _ still => still.extract r) h _ _ _
  metrics h _ := call_leaves (fun _ still => still.metrics) h _ _ _

theorem nextBatch_leaves (h : Host π) (ne : p.slot ≠ slot) (source : ι) :
    h.Leaves slot (h.nextBatch p source).2.2 := by
  unfold nextBatch
  exact h.call_leaves_other ne _ _ _

theorem close_leaves (h : Host π) (ne : p.slot ≠ slot) (source : ι) : h.Leaves slot (h.close p source) :=
  h.call_leaves_other ne _ _ _

end Host

theorem Registry.register_leaves (r : Registry) (h : Host π) (d : Descriptor π) (config : String) :
    h.Leaves slot (r.register h d config).2.2 := by
  obtain ⟨_, _, same⟩ | ⟨h', state, answer, slots, _⟩ := r.register_cases h d config
  · exact .of_slots (by rw [same])
  · intro s held still
    have bound := (List.getElem?_eq_some_iff.mp held).1
    rw [answer, slots, List.getElem?_append_left bound]
    exact held

end Calls

section Steps
variable [Plugin π ι] {slot : Nat} {g : Engine ι} {d : Driver ι}

/-- A source does not belong to the plugin in a slot. -/
def Source.Spares (slot : Nat) : Source ι → Prop
  | .capture _ => True
  | .plugin stream => stream.owner.slot ≠ slot

/-- The plugin in a slot neither generates the events of an engine nor parses them. -/
structure Engine.Spares (slot : Nat) (g : Engine ι) : Prop where
  source : ∀ s, g.source = some s → s.Spares slot
  parsers : ∀ p ∈ g.registry.plugins, p.manifest.can .eventParsing = true → p.slot ≠ slot

theorem PluginStream.pull_leaves {s : PluginStream ι} (spares : s.owner.slot ≠ slot) (h : Host π) :
    h.Leaves slot (s.pull h).2.2 := by
  unfold pull
  cases s.pending with
  | cons e rest => exact .refl slot h
  | nil =>
    have asked := h.nextBatch_leaves spares s.state
    dsimp only
    split <;> exact asked

theorem Source.pull_leaves {s : Source ι} (spares : s.Spares slot) (h : Host π) :
    h.Leaves slot (s.pull h).2.2 := by
  cases s with
  | capture records => cases records <;> exact .refl slot h
  | plugin stream => exact stream.pull_leaves spares h

theorem Source.close_leaves {s : Source ι} (spares : s.Spares slot) (h : Host π) :
    h.Leaves slot (s.close h) := by
  cases s with
  | capture records => exact .refl slot h
  | plugin stream => exact h.close_leaves spares _

namespace Engine

/-- To show an event to plugins leaves the slots of others as they are. -/
theorem offer_slot {plugins : List Handle}
    (spared : ∀ p ∈ plugins, p.manifest.can .eventParsing = true → p.slot ≠ slot) (h : Host π)
    (e : Event) : (offer h e plugins).2.slots[slot]? = h.slots[slot]? :=
  offer_relates (fun h h' => h'.slots[slot]? = h.slots[slot]?) (fun _ => rfl)
    (fun first second => second.trans first)
    (fun p member can _ h => h.call_other (spared p member can) _ _ _) h

theorem Advance.leaves {h h' : Host π} (step : Advance g h e result g' h') (spares : g.Spares slot) :
    h.Leaves slot h' := by
  have pulls : ∀ {s gave s' between}, g.source = some s → s.pull h = (gave, s', between) →
      h.Leaves slot between := by
    intro s gave s' between opened pulled
    have pulls := Source.pull_leaves (spares.source s opened) h
    rwa [pulled] at pulls
  have offers : ∀ {between : Host π} {e answer}, offer between e g.registry.plugins = (answer, h') →
      between.Leaves slot h' := by
    intro between e answer offered
    have offers := offer_slot spares.parsers between e
    rw [offered] at offers
    exact .of_slots offers
  cases step with
  | ended => exact .refl slot h
  | closed => exact .refl slot h
  | interrupted _ opened pulled | timeout _ opened pulled | eof _ opened pulled
  | failed _ opened pulled => exact pulls opened pulled
  | delivered _ opened pulled offered | refused _ opened pulled offered
  | parsePanicked _ opened pulled offered => exact (pulls opened pulled).trans (offers offered)

theorem openPlugin_leaves (g : Engine ι) (h : Host π) (name params : String) (platform : Bool) :
    h.Leaves slot (g.openPlugin h name params platform).2.2 := by
  obtain same | ⟨owner, _, _, _, _, _, called⟩ := g.openPlugin_host h name params platform
  · rw [same]
    exact .refl slot h
  · rw [called]
    exact h.openSource_leaves owner params

end Engine

namespace Driver

theorem openPlugin_leaves (d : Driver ι) (h : Host π) (name params : String) (platform : Bool) :
    h.Leaves slot (d.openPlugin h name params platform).2.2 := by
  obtain same | same := d.openPlugin_host h name params platform <;> rw [same]
  · exact .refl slot h
  · exact d.engine.openPlugin_leaves h name params platform

/-- Only steps change still plugins. -/
theorem perform_leaves_rest (d : Driver ι) (h : Host π) {c : DriverCall π} (rest : c.isNext = false) :
    h.Leaves slot (d.perform h c).2.2 := by
  cases c with
  | register plugin config => exact d.engine.registry.register_leaves h plugin config
  | addExtractors plugin source => exact .refl slot h
  | openCapture file => exact .refl slot h
  | openPlugin name params platform => exact d.openPlugin_leaves h name params platform
  | next => cases rest
  | extractText field handle => exact Host.leaves_observed.extractText d h field handle
  | extractWithOffsets field handle => exact Host.leaves_observed.extractWithOffsets d h field handle
  | metrics => exact Host.leaves_observed.collect d.collector d.engine h

theorem next_leaves (spares : d.engine.Spares slot) (h : Host π) : h.Leaves slot (d.next h).2.2 := by
  cases state : d.state with
  | idle =>
    rw [next_of_idle state]
    exact .refl slot h
  | capturing =>
    rw [next_of_capturing state]
    exact (d.engine.next_advances h).leaves spares

theorem perform_leaves (spares : d.engine.Spares slot) (h : Host π) (c : DriverCall π) :
    h.Leaves slot (d.perform h c).2.2 := by
  cases step : c.isNext with
  | false => exact d.perform_leaves_rest h step
  | true =>
    cases c with
    | next => exact next_leaves spares h
    | _ => cases step

theorem drop_leaves (spares : d.engine.Spares slot) (h : Host π) : h.Leaves slot (d.drop h).2 := by
  unfold drop Engine.shutdown Engine.stop
  cases opened : d.engine.source with
  | none => exact .refl slot h
  | some source => exact source.close_leaves (spares.source source opened) h

end Driver

end Steps

end EventProbe
