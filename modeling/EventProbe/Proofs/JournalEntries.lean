import EventProbe.Proofs.HostHistory

/-! Which calls of plugins an operation enters in the journal, and of which plugins. A statement about
the calls of an operation comes with what is known of the plugin when it is called. -/
namespace EventProbe

/-- A later state of a process in which only these calls were made. -/
def Host.Makes (allowed : Handle → Action → Prop) (h h' : Host π) : Prop :=
  ∃ calls, h'.journal.toList = h.journal.toList ++ calls ∧
    ∀ c ∈ calls, ∃ r : Handle, c.slot = r.slot ∧ allowed r c.action

namespace Host.Makes
variable {allowed other : Handle → Action → Prop} {h h' h'' : Host π}

theorem refl (allowed : Handle → Action → Prop) (h : Host π) : h.Makes allowed h :=
  ⟨[], by simp, by simp⟩

theorem trans (first : h.Makes allowed h') (second : h'.Makes allowed h'') : h.Makes allowed h'' := by
  obtain ⟨early, entered, permitted⟩ := first
  obtain ⟨late, entered', permitted'⟩ := second
  refine ⟨early ++ late, ?_, ?_⟩
  · rw [entered', entered, List.append_assoc]
  · intro c made
    obtain before | after := List.mem_append.mp made
    · exact permitted c before
    · exact permitted' c after

theorem record (h : Host π) (r : Handle) (name : String) {action : Action} (ok : allowed r action) :
    h.Makes allowed (h.record r.slot name action) := by
  refine ⟨[⟨r.slot, name, action⟩], ?_, ?_⟩
  · simp only [Host.record, Array.toList_push]
  · intro c made
    cases List.mem_singleton.mp made
    exact ⟨r, rfl, ok⟩

theorem call (h : Host π) (r : Handle) {action : Action} (ok : allowed r action) (absent : α)
    (run : π → α × π) : h.Makes allowed (h.call r.slot action absent run).2 := by
  unfold Host.call
  cases h.slots[r.slot]? with
  | none => exact refl allowed h
  | some s => exact record h r s.manifest.name ok

end Host.Makes

def generated : Except Panic Batch → List BatchEvent
  | .ok (.events list) => list
  | _ => []

section Sources
variable [Plugin π ι]

/-- What a source gives, by where it takes it from: a record, the first event that waits, or a batch
that the plugin is asked for. -/
inductive Source.Draws : Source ι → Host π → Except Panic Pulled → Source ι → Host π → Prop where
  | recorded : (∀ raw, result = .ok (.event raw) → raw.plugin = none) →
      Draws (.capture records) h result (.capture rest) h
  | waiting (stream : PluginStream ι) : stream.pending = b :: rest →
      Draws (.plugin stream) h (.ok (.event (stream.raw now b)))
        (.plugin { stream with pending := rest }) h
  | asked (stream : PluginStream ι) : stream.pending = [] →
      h.nextBatch stream.owner stream.state = (batch, state, h') →
      (∀ b ∈ rest, b ∈ generated batch) →
      (∀ raw, result = .ok (.event raw) → ∃ b ∈ generated batch, ∃ now, raw = stream.raw now b) →
      Draws (.plugin stream) h result (.plugin { stream with state, pending := rest }) h'

theorem Source.draws (s : Source ι) (h : Host π) :
    s.Draws h (s.pull h).1 (s.pull h).2.1 (s.pull h).2.2 := by
  cases s with
  | capture records =>
    cases records with
    | nil => exact .recorded (by simp [pull])
    | cons r rest =>
      refine .recorded ?_
      rintro raw ⟨⟩
      rfl
  | plugin stream =>
    obtain ⟨owner, source, state, pending⟩ := stream
    cases pending with
    | cons b rest => exact .waiting ⟨owner, source, state, b :: rest⟩ rfl
    | nil =>
      rcases answer : h.nextBatch owner state with ⟨batch, state', h'⟩
      simp only [pull, PluginStream.pull, answer]
      rcases batch with p | (list | _ | _ | reason)
      · exact .asked ⟨owner, source, state, []⟩ rfl answer (by simp) (by simp)
      · cases list with
        | nil => exact .asked ⟨owner, source, state, []⟩ rfl answer (by simp) (by simp)
        | cons b rest =>
          refine .asked ⟨owner, source, state, []⟩ rfl answer ?_ ?_
          · intro b waits
            exact List.mem_cons_of_mem _ waits
          · rintro raw ⟨⟩
            exact ⟨b, List.mem_cons_self, h'.now, rfl⟩
      all_goals exact .asked ⟨owner, source, state, []⟩ rfl answer (by simp) (by simp)

end Sources

section Calls
variable {allowed : Handle → Action → Prop} {h : Host π}

theorem Registry.register_makes (r : Registry) (h : Host π) (plugin : Descriptor π) (config : String)
    (ok : allowed ⟨h.slots.length, plugin.manifest⟩ (.init config)) :
    h.Makes allowed (r.register h plugin config).2.2 := by
  have entered : h.Makes allowed (h.record h.slots.length plugin.manifest.name (.init config)) :=
    .record h ⟨h.slots.length, plugin.manifest⟩ _ ok
  have attempt := r.register_attempt h plugin config
  generalize r.register h plugin config = answer at attempt
  cases attempt with
  | incapable | taken => exact .refl allowed h
  | refused | panicked | held => exact entered

variable [Plugin π ι]

theorem Engine.openPlugin_makes (g : Engine ι) (h : Host π) (name params : String) (platform : Bool)
    (ok : ∀ owner source, g.source = none → g.registry.find? name = some owner →
      owner.manifest.generates = some source → allowed owner (.openSource params)) :
    h.Makes allowed (g.openPlugin h name params platform).2.2 := by
  obtain same | ⟨owner, source, closed, found, generates, _, called⟩ :=
    g.openPlugin_host h name params platform
  · rw [same]
    exact .refl allowed h
  · rw [called]
    exact .call h owner (ok owner source closed found generates) _ _

theorem Engine.offer_makes (h : Host π) (e : Event) (plugins : List Handle)
    (ok : ∀ r ∈ plugins, r.manifest.can .eventParsing = true → r.manifest.reads e.source = true →
      allowed r (.parse e)) : h.Makes allowed (offer h e plugins).2 :=
  offer_relates (Host.Makes allowed) (.refl allowed) .trans
    (fun r member can reads h => .call h r (ok r member can reads) _ _) h

theorem Source.Draws.makes {s s' : Source ι} (draws : s.Draws h result s' h')
    (ok : ∀ stream state, s = .plugin stream → stream.pending = [] →
      (∃ rest, s' = .plugin { stream with state, pending := rest }) →
      state = (h.nextBatch stream.owner stream.state).2.1 → allowed stream.owner .nextBatch) :
    h.Makes allowed h' := by
  cases draws with
  | recorded => exact .refl allowed h
  | waiting => exact .refl allowed h
  | asked stream pending answer rest gave =>
    have asked : h.Makes allowed (h.nextBatch stream.owner stream.state).2.2 := by
      unfold Host.nextBatch
      apply Host.Makes.call
      exact ok stream _ rfl pending ⟨_, rfl⟩ (by rw [answer])
    rw [answer] at asked
    exact asked

theorem Engine.stop_makes (g : Engine ι) (h : Host π)
    (ok : ∀ stream, g.source = some (.plugin stream) → allowed stream.owner .close) :
    h.Makes allowed (g.stop h).2 := by
  unfold stop
  cases opened : g.source with
  | none => exact .refl allowed h
  | some s =>
    cases s with
    | capture records => exact .refl allowed h
    | plugin stream => exact .call h stream.owner (ok stream opened) _ _

theorem Extractor.extract_makes (h : Host π) (x : Extractor) (e : Event) (offsets : Bool)
    (renders : ∀ r, e.plugin = some r → allowed r (.render e))
    (extracts : ∀ field r id info, x = .plugin field r id info → r.manifest.reads e.source = true →
      allowed r (.extract (Request.make id info field e offsets))) :
    h.Makes allowed (x.extract h e offsets).2 := by
  obtain same | ⟨r, named, rendered⟩ | ⟨field, r, id, info, plugin, reads, extracted⟩ :=
    x.extract_host h e offsets
  · rw [same]
    exact .refl allowed h
  · rw [rendered]
    exact .call h r (renders r named) _ _
  · rw [extracted]
    exact .call h r (extracts field r id info plugin reads) _ _

theorem Collector.collect_makes (c : Collector) (g : Engine ι) (h : Host π)
    (ok : ∀ r ∈ g.registry.plugins, allowed r .metrics) : h.Makes allowed (c.collect g h).2.2 := by
  have asked : ∀ plugins (h : Host π) snapshot, (∀ r ∈ plugins, allowed r .metrics) →
      h.Makes allowed (addPlugins h plugins snapshot).2.2 := by
    intro plugins
    induction plugins with
    | nil => exact fun h snapshot ok => .refl allowed h
    | cons p rest ih =>
      intro h snapshot ok
      obtain ⟨here, ok⟩ := List.forall_mem_cons.mp ok
      have first : h.Makes allowed (h.metrics p).2 := .call h p here _ _
      unfold addPlugins
      split <;> rename_i answer <;> rw [answer] at first
      · exact first
      · exact first.trans (ih _ _ ok)
  unfold collect
  dsimp only
  split
  · exact asked _ h _ ok
  · exact .refl allowed h

end Calls

end EventProbe
