import EventProbe.Extraction
import EventProbe.Plugins.Bundled

/-! Plugins whose extraction calls do not change what later ones answer. Of such plugins, an extractor
reads the same from an event however often it was asked before. -/
namespace EventProbe

/-- Showing an event or extracting a field, in this state of a plugin, does not change the answer to
another call of the same kind. -/
structure Plugin.Steady [Plugin π ι] (p : π) : Prop where
  render : ∀ e e', (Plugin.render (Plugin.render p e).2 e').1 = (Plugin.render p e').1
  extract : ∀ r r', (Plugin.extract (Plugin.extract p r).2 r').1 = (Plugin.extract p r').1

/-- All registered plugins are in such states. -/
def Host.Steady [Plugin π ι] (h : Host π) : Prop :=
  ∀ slot ∈ h.slots, Plugin.Steady slot.state

namespace Plugin

theorem steady_of_unchanged [Plugin π ι] {p : π} (render : ∀ e, (Plugin.render p e).2 = p)
    (extract : ∀ r, (Plugin.extract p r).2 = p) : Steady p where
  render e e' := by rw [render]
  extract r r' := by rw [extract]

/-- Bundled plugins are not changed when events are shown, fields extracted or metrics read. -/
theorem render_bundled (p : Bundled) (e : Event) : (Plugin.render p e).2 = p := by
  rcases p with p | p | p | p | p <;> rfl

theorem extract_bundled (p : Bundled) (r : Request) : (Plugin.extract p r).2 = p := by
  rcases p with p | p | p | p | p
  · rfl
  · simp only [Plugin.extract]
  · rfl
  · rfl
  · rfl

theorem metrics_bundled (p : Bundled) : (Plugin.metrics p).2 = p := by
  rcases p with p | p | p | p | p <;> rfl

theorem steady_bundled (p : Bundled) : Steady p :=
  steady_of_unchanged (render_bundled p) (extract_bundled p)

end Plugin

namespace Host

/-- A call in a slot that was called before is answered as if it were the first, if the plugin there
answers so. -/
theorem call_again {h : Host π} {run run' : π → α × π}
    (steady : ∀ slot ∈ h.slots, (run' (run slot.state).2).1 = (run' slot.state).1)
    (slot : Nat) (action action' : Action) (absent absent' : α) :
    ((h.call slot action absent run).2.call slot action' absent' run').1 =
      (h.call slot action' absent' run').1 := by
  cases found : h.slots[slot]? with
  | none => simp only [call, found]
  | some s =>
    have bound := (List.getElem?_eq_some_iff.mp found).1
    simp only [call, found, record, List.getElem?_set_self bound]
    exact steady s (List.mem_of_getElem? found)

variable [Plugin π ι] {h : Host π}

theorem render_again (steady : h.Steady) (p : Handle) (e e' : Event) :
    ((h.render p e).2.render p e').1 = (h.render p e').1 :=
  call_again (fun slot held => (steady slot held).render e e') _ _ _ _ _

theorem extract_again (steady : h.Steady) (p : Handle) (r r' : Request) :
    ((h.extract p r).2.extract p r').1 = (h.extract p r').1 :=
  call_again (fun slot held => (steady slot held).extract r r') _ _ _ _ _

end Host

namespace Extractor
variable [Plugin π ι] {h : Host π}

theorem extractGeneric_again (steady : h.Steady) (field : FieldName) (kind : GenericField)
    (e : Event) :
    (extractGeneric (extractGeneric h field kind e).2 field kind e).1 =
      (extractGeneric h field kind e).1 := by
  cases kind with
  | pluginInfo =>
    cases owner : e.plugin with
    | none => simp only [extractGeneric, owner]
    | some p =>
      simp only [extractGeneric, owner, Host.render_again steady]
  | argument =>
    simp only [extractGeneric]
    split <;> rfl
  | hostname | os | arch =>
    simp only [extractGeneric]
    split <;> rfl
  | _ => rfl

/-- A second pass over an event reads what it would read without the first. -/
theorem extract_again (steady : h.Steady) (x : Extractor) (e : Event) (first second : Bool) :
    (x.extract (x.extract h e first).2 e second).1 = (x.extract h e second).1 := by
  cases x with
  | generic field kind => exact extractGeneric_again steady field kind e
  | plugin field owner id info =>
    by_cases reads : owner.manifest.reads e.source = true
    · simp only [extract, reads, if_true, Host.extract_again steady]
    · simp only [extract, reads, if_false, Bool.false_eq_true]

end Extractor

end EventProbe
