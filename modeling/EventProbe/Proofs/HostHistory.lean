import EventProbe.Driver
import EventProbe.Proofs.EngineSteps
import EventProbe.Proofs.Registration

/-! Every operation leaves a later state of the same process: slots, journal and identity of the
process only grow, whatever the plugins do, and also when they fail or panic. -/
namespace EventProbe

/-- A later state of a process in which no driver was made. Slots keep their manifests, so that a
reference to a plugin stays good. -/
structure Host.Continues (h h' : Host π) : Prop where
  environment : h'.environment = h.environment
  now : h'.now = h.now
  drivers : h'.drivers = h.drivers
  manifests : h.slots.map Slot.manifest <+: h'.slots.map Slot.manifest
  journal : h.journal.toList <+: h'.journal.toList

namespace Host

theorem Continues.refl (h : Host π) : h.Continues h :=
  ⟨rfl, rfl, rfl, List.prefix_rfl, List.prefix_rfl⟩

theorem Continues.trans (first : Host.Continues h h') (second : Host.Continues h' h'') :
    Host.Continues h h'' where
  environment := second.environment.trans first.environment
  now := second.now.trans first.now
  drivers := second.drivers.trans first.drivers
  manifests := first.manifests.trans second.manifests
  journal := first.journal.trans second.journal

theorem record_continues (h : Host π) (slot : Nat) (plugin : String) (action : Action) :
    h.Continues (h.record slot plugin action) where
  environment := rfl
  now := rfl
  drivers := rfl
  manifests := List.prefix_rfl
  journal := by simp only [record, Array.toList_push, List.prefix_append]

/-- A call replaces the state in a slot and keeps its manifest. -/
theorem map_manifest_set {slots : List (Slot π)} {slot : Nat} {s : Slot π}
    (found : slots[slot]? = some s) (state : π) :
    (slots.set slot { s with state }).map Slot.manifest = slots.map Slot.manifest := by
  obtain ⟨bound, rfl⟩ := List.getElem?_eq_some_iff.mp found
  rw [List.map_set]
  apply List.ext_getElem
  · simp only [List.length_set]
  · intro i left right
    by_cases same : slot = i
    · subst same
      simp only [List.getElem_set_self, List.getElem_map]
    · simp only [List.getElem_set_ne same]

theorem call_continues (h : Host π) (slot : Nat) (action : Action) (absent : α)
    (run : π → α × π) : h.Continues (h.call slot action absent run).2 := by
  unfold call
  cases found : h.slots[slot]? with
  | none => exact .refl h
  | some s =>
    refine (h.record_continues slot s.manifest.name action).trans ⟨rfl, rfl, rfl, ?_, List.prefix_rfl⟩
    simp only [record, map_manifest_set found, List.prefix_rfl]

section Calls
variable [Plugin π ι]

theorem openSource_continues (h : Host π) (p : Handle) (params : String) :
    h.Continues (h.openSource p params).2 :=
  h.call_continues _ _ _ _

theorem nextBatch_continues (h : Host π) (p : Handle) (source : ι) :
    h.Continues (h.nextBatch p source).2.2 := by
  unfold nextBatch
  exact h.call_continues _ _ _ _

theorem close_continues (h : Host π) (p : Handle) (source : ι) : h.Continues (h.close p source) :=
  h.call_continues _ _ _ _

theorem render_continues (h : Host π) (p : Handle) (e : Event) : h.Continues (h.render p e).2 :=
  h.call_continues _ _ _ _

theorem extract_continues (h : Host π) (p : Handle) (r : Request) : h.Continues (h.extract p r).2 :=
  h.call_continues _ _ _ _

theorem parse_continues (h : Host π) (p : Handle) (e : Event) : h.Continues (h.parse p e).2 :=
  h.call_continues _ _ _ _

theorem metrics_continues (h : Host π) (p : Handle) : h.Continues (h.metrics p).2 :=
  h.call_continues _ _ _ _

end Calls

end Host

theorem Registry.register_continues (r : Registry) (h : Host π) (d : Descriptor π)
    (config : String) : h.Continues (r.register h d config).2.2 := by
  have entered := h.record_continues h.slots.length d.manifest.name (.init config)
  have attempt := r.register_attempt h d config
  generalize r.register h d config = answer at attempt
  cases attempt with
  | incapable | taken => exact .refl h
  | refused | panicked => exact entered
  | held =>
    refine entered.trans ⟨rfl, rfl, rfl, ?_, List.prefix_rfl⟩
    simp only [Host.record, List.map_append, List.prefix_append]

theorem Engine.register_continues (g : Engine ι) (h : Host π) (d : Descriptor π)
    (config : String) : h.Continues (g.register h d config).2.2 :=
  g.registry.register_continues h d config

section Streams
variable [Plugin π ι]

theorem PluginStream.pull_continues (s : PluginStream ι) (h : Host π) :
    h.Continues (s.pull h).2.2 := by
  unfold pull
  cases s.pending with
  | cons e rest => exact .refl h
  | nil =>
    have asked := h.nextBatch_continues s.owner s.state
    dsimp only
    split <;> exact asked

theorem Source.pull_continues (s : Source ι) (h : Host π) : h.Continues (s.pull h).2.2 := by
  cases s with
  | capture records => cases records <;> exact .refl h
  | plugin stream => exact stream.pull_continues h

theorem Source.close_continues (s : Source ι) (h : Host π) : h.Continues (s.close h) := by
  cases s with
  | capture records => exact .refl h
  | plugin stream => exact h.close_continues _ _

theorem Engine.offer_continues (h : Host π) (e : Event) (plugins : List Handle) :
    h.Continues (offer h e plugins).2 :=
  offer_relates Host.Continues .refl .trans (fun p _ _ _ h => h.parse_continues p e) h

theorem Engine.deliver_continues (g : Engine ι) (h : Host π) (raw : RawEvent) :
    h.Continues (g.deliver h raw).2.2 := by
  have offered := offer_continues h (g.number raw) g.registry.plugins
  unfold deliver
  dsimp only
  split <;> rename_i shown <;> rw [shown] at offered <;> exact offered

theorem Engine.next_continues (g : Engine ι) (h : Host π) : h.Continues (g.next h).2.2 := by
  unfold next
  dsimp only
  split
  · exact .refl h
  · exact .refl h
  · rename_i source _ _
    have pulled := source.pull_continues h
    split
    · exact pulled
    · exact pulled.trans (deliver_continues _ _ _)
    · exact pulled
    · exact pulled
    · exact pulled

theorem Engine.openPlugin_continues (g : Engine ι) (h : Host π) (name params : String)
    (platform : Bool) : h.Continues (g.openPlugin h name params platform).2.2 := by
  obtain same | ⟨owner, _, _, _, _, _, called⟩ := g.openPlugin_host h name params platform
  · rw [same]
    exact .refl h
  · rw [called]
    exact h.openSource_continues owner params

theorem Engine.shutdown_continues (g : Engine ι) (h : Host π) :
    h.Continues (g.shutdown h).2 := by
  unfold shutdown stop
  cases g.source with
  | none => exact .refl h
  | some source => exact source.close_continues h

/-- A relation between states of a process that holds across calls that only look at plugins. -/
structure Host.Observed (later : Host π → Host π → Prop) : Prop where
  refl : ∀ h, later h h
  trans : ∀ {h h' h''}, later h h' → later h' h'' → later h h''
  render : ∀ h p e, later h (Host.render h p e).2
  extract : ∀ h p r, later h (Host.extract h p r).2
  metrics : ∀ h p, later h (Host.metrics h p).2

theorem Host.continues_observed : Host.Observed (Host.Continues (π := π)) where
  refl := .refl
  trans := .trans
  render := render_continues
  extract := extract_continues
  metrics := metrics_continues

/-- Extraction leaves the process as it is, or has a plugin show the event, or extract from it. -/
theorem Extractor.extract_host (h : Host π) (x : Extractor) (e : Event) (offsets : Bool) :
    (x.extract h e offsets).2 = h ∨
      (∃ r, e.plugin = some r ∧ (x.extract h e offsets).2 = (h.render r e).2) ∨
      ∃ field r id info, x = .plugin field r id info ∧ r.manifest.reads e.source = true ∧
        (x.extract h e offsets).2 = (h.extract r (Request.make id info field e offsets)).2 := by
  cases x with
  | generic field kind =>
    -- Only the text of an event is asked of a plugin.
    cases kind with
    | pluginInfo =>
      simp only [extract, extractGeneric]
      cases e.plugin with
      | none => exact .inl rfl
      | some r => exact .inr (.inl ⟨r, rfl, rfl⟩)
    | argument | hostname | os | arch =>
      left
      simp only [extract, extractGeneric]
      split <;> rfl
    | _ => exact .inl rfl
  | plugin field owner id info =>
    simp only [extract]
    split
    · rename_i reads
      exact .inr (.inr ⟨field, owner, id, info, rfl, reads, rfl⟩)
    · exact .inl rfl

end Streams

namespace Host.Observed
variable [Plugin π ι] {later : Host π → Host π → Prop}

theorem extractor (observed : Host.Observed later) (h : Host π) (x : Extractor) (e : Event)
    (offsets : Bool) : later h (x.extract h e offsets).2 := by
  obtain same | ⟨r, _, rendered⟩ | ⟨field, r, id, info, _, _, extracted⟩ := x.extract_host h e offsets
  · rw [same]
    exact observed.refl h
  · rw [rendered]
    exact observed.render h r e
  · rw [extracted]
    exact observed.extract h r _

theorem addPlugins (observed : Host.Observed later) (h : Host π) (plugins : List Handle)
    (snapshot : Snapshot) : later h (Collector.addPlugins h plugins snapshot).2.2 := by
  induction plugins generalizing h snapshot with
  | nil => exact observed.refl h
  | cons p rest ih =>
    have asked := observed.metrics h p
    unfold Collector.addPlugins
    split <;> rename_i answer <;> rw [answer] at asked
    · exact asked
    · exact observed.trans asked (ih _ _)

theorem collect (observed : Host.Observed later) (c : Collector) (g : Engine ι) (h : Host π) :
    later h (c.collect g h).2.2 := by
  unfold Collector.collect
  dsimp only
  split
  · exact observed.addPlugins _ _ _
  · exact observed.refl h

theorem renderField (observed : Host.Observed later) (h : Host π) (x : Extractor) (field : String)
    (e : Event) : later h (Driver.renderField h x field e).2 := by
  have rendered : later h (x.render h e).2 := observed.extractor h x e false
  unfold Driver.renderField
  split <;> rename_i answer <;> rw [answer] at rendered <;> exact rendered

theorem locateField (observed : Host.Observed later) (h : Host π) (x : Extractor) (field : String)
    (e : Event) : later h (Driver.locateField h x field e).2 := by
  have extracted := observed.extractor h x e true
  unfold Driver.locateField
  split <;> rename_i answer <;> rw [Extractor.extractWithOffsets] at answer <;>
    rw [answer] at extracted <;> exact extracted

theorem extractText (observed : Host.Observed later) (d : Driver ι) (h : Host π) (field : String)
    (handle : EventHandle) : later h (d.extractText h field handle).2.2 := by
  unfold Driver.extractText
  split
  · exact observed.refl h
  · exact observed.renderField h _ field _

theorem extractWithOffsets (observed : Host.Observed later) (d : Driver ι) (h : Host π)
    (field : String) (handle : EventHandle) :
    later h (d.extractWithOffsets h field handle).2.2 := by
  unfold Driver.extractWithOffsets
  split
  · exact observed.refl h
  · rename_i x e _ _
    have rendered := observed.renderField h x field e
    split <;> rename_i answer <;> rw [answer] at rendered
    · exact rendered
    · exact rendered
    · exact observed.trans rendered (observed.locateField _ x field e)

end Host.Observed

namespace Driver
variable [Plugin π ι]

/-- A driver that may not open a source leaves the process as it is, and else as its engine does. -/
theorem openPlugin_host (d : Driver ι) (h : Host π) (name params : String) (platform : Bool) :
    (d.openPlugin h name params platform).2.2 = h ∨
      (d.openPlugin h name params platform).2.2 =
        (d.engine.openPlugin h name params platform).2.2 := by
  unfold openPlugin
  split
  · exact .inl rfl
  · right
    split <;> rename_i answer <;> rw [answer]

theorem openPlugin_continues (d : Driver ι) (h : Host π) (name params : String)
    (platform : Bool) : h.Continues (d.openPlugin h name params platform).2.2 := by
  obtain same | same := d.openPlugin_host h name params platform <;> rw [same]
  · exact .refl h
  · exact d.engine.openPlugin_continues h name params platform

theorem next_continues (d : Driver ι) (h : Host π) : h.Continues (d.next h).2.2 := by
  have stepped := d.engine.next_continues h
  unfold next
  split
  · exact .refl h
  · dsimp only
    split <;> exact stepped

theorem drop_continues (d : Driver ι) (h : Host π) : h.Continues (d.drop h).2 :=
  d.engine.shutdown_continues h

end Driver

end EventProbe
