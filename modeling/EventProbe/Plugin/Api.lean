import EventProbe.Event
import EventProbe.Metric
import EventProbe.Outcome

/-!
# The plugin interface

A plugin has a state of type `π`; the sources it opens have states of type `ι`. Every call takes the
states and returns the changed ones, also when it fails or panics. A source shares the state of its
plugin, so asking it for events may change both.
-/

namespace EventProbe

/-- Plugins with states `π` whose sources have states `ι`. -/
class Plugin (π : Type) (ι : outParam Type) where
  openSource : π → String → Outcome String ι × π :=
    fun p _ => (.failed "plugin does not generate events", p)
  nextBatch : π → ι → Except Panic Batch × π × ι :=
    fun p i => (.ok .endOfStream, p, i)
  close : π → ι → π :=
    fun p _ => p
  render : π → Event → Outcome String String × π :=
    fun p e => (.ok e.text, p)
  extract : π → Request → Outcome String (List Extracted) × π :=
    fun p _ => (.ok [], p)
  /-- Sees an event, and may refuse it. -/
  parse : π → Event → Outcome String Unit × π :=
    fun p _ => (.ok (), p)
  metrics : π → Except Panic (List Metric) × π :=
    fun p => (.ok [], p)

/-- A kind of plugin: what it declares, and how one is made from a configuration. -/
structure Descriptor (π : Type) where
  manifest : Manifest
  init : String → Outcome String π

def Descriptor.map (f : π → ρ) (d : Descriptor π) : Descriptor ρ :=
  ⟨d.manifest, fun config => (d.init config).map f⟩

/-- Plugins of two families side by side. A source that is not of its plugin's family has no
events. -/
instance [Plugin π ι] [Plugin ρ κ] : Plugin (π ⊕ ρ) (ι ⊕ κ) where
  openSource
    | .inl p, params => let (o, p) := Plugin.openSource p params; (o.map .inl, .inl p)
    | .inr p, params => let (o, p) := Plugin.openSource p params; (o.map .inr, .inr p)
  nextBatch
    | .inl p, .inl i => let (b, p, i) := Plugin.nextBatch p i; (b, .inl p, .inl i)
    | .inr p, .inr i => let (b, p, i) := Plugin.nextBatch p i; (b, .inr p, .inr i)
    | p, i => (.ok .endOfStream, p, i)
  close
    | .inl p, .inl i => .inl (Plugin.close p i)
    | .inr p, .inr i => .inr (Plugin.close p i)
    | p, _ => p
  render
    | .inl p, e => let (o, p) := Plugin.render p e; (o, .inl p)
    | .inr p, e => let (o, p) := Plugin.render p e; (o, .inr p)
  extract
    | .inl p, r => let (o, p) := Plugin.extract p r; (o, .inl p)
    | .inr p, r => let (o, p) := Plugin.extract p r; (o, .inr p)
  parse
    | .inl p, e => let (o, p) := Plugin.parse p e; (o, .inl p)
    | .inr p, e => let (o, p) := Plugin.parse p e; (o, .inr p)
  metrics
    | .inl p => let (m, p) := Plugin.metrics p; (m, .inl p)
    | .inr p => let (m, p) := Plugin.metrics p; (m, .inr p)

end EventProbe
