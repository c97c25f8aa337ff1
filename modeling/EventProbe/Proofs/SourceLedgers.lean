import EventProbe.Proofs.EngineRuns

/-! Plugins that keep a ledger of their sources. Every source that such a plugin opens gets a number of
its own, and the ledger says, in order, when each source was asked for events and when it was closed.
An engine cannot tell a plugin with a ledger from the plugin alone: without the ledgers, what it does and
answers is the same. -/
namespace EventProbe

/-- What is done with an opened source. -/
inductive SourceUse where
  | asked
  | closed
  deriving DecidableEq, Repr

structure Ledger where
  /-- Number of sources opened so far, which is the number of the next one. -/
  opened : Nat
  uses : List (Nat × SourceUse)
  deriving DecidableEq, Repr

namespace Ledger

def empty : Ledger := ⟨0, []⟩

def enter (l : Ledger) (number : Nat) (use : SourceUse) : Ledger :=
  { l with uses := l.uses ++ [(number, use)] }

def grow (l : Ledger) : Ledger :=
  { l with opened := l.opened + 1 }

def life (l : Ledger) (number : Nat) : List SourceUse :=
  (l.uses.filter (·.1 == number)).map Prod.snd

end Ledger

/-- A plugin with a ledger of its sources. -/
structure Kept (π : Type) where
  plugin : π
  ledger : Ledger

structure Numbered (ι : Type) where
  number : Nat
  state : ι

/-- Calls the plugin and leaves the ledger as it is. -/
def Kept.lift (run : π → α × π) (k : Kept π) : α × Kept π :=
  let (answer, plugin) := run k.plugin
  (answer, { k with plugin })

instance [Plugin π ι] : Plugin (Kept π) (Numbered ι) where
  openSource k params :=
    match Plugin.openSource k.plugin params with
    | (.ok state, plugin) => (.ok ⟨k.ledger.opened, state⟩, ⟨plugin, k.ledger.grow⟩)
    | (.failed reason, plugin) => (.failed reason, { k with plugin })
    | (.panicked p, plugin) => (.panicked p, { k with plugin })
  nextBatch k source :=
    let (batch, plugin, state) := Plugin.nextBatch k.plugin source.state
    (batch, ⟨plugin, k.ledger.enter source.number .asked⟩, { source with state })
  close k source :=
    ⟨Plugin.close k.plugin source.state, k.ledger.enter source.number .closed⟩
  render k e := k.lift (Plugin.render · e)
  extract k r := k.lift (Plugin.extract · r)
  parse k e := k.lift (Plugin.parse · e)
  metrics k := k.lift Plugin.metrics

/-- A kind of plugin, with an empty ledger to begin with. -/
def Descriptor.kept (d : Descriptor π) : Descriptor (Kept π) :=
  d.map (⟨·, .empty⟩)

def EngineCall.kept : EngineCall π → EngineCall (Kept π)
  | .register plugin config => .register plugin.kept config
  | .openCapture file => .openCapture file
  | .openPlugin name params platform => .openPlugin name params platform
  | .next => .next
  | .stop => .stop
  | .shutdown => .shutdown

/-! ## Without the ledgers -/

def Slot.plain (s : Slot (Kept π)) : Slot π :=
  ⟨s.manifest, s.state.plugin⟩

def Host.plain (h : Host (Kept π)) : Host π :=
  ⟨h.slots.map Slot.plain, h.journal, h.environment, h.now, h.drivers⟩

/-- All plugins with empty ledgers. -/
def Host.kept (h : Host π) : Host (Kept π) :=
  ⟨h.slots.map fun s => ⟨s.manifest, s.state, .empty⟩, h.journal, h.environment, h.now, h.drivers⟩

theorem Host.plain_kept (h : Host π) : h.kept.plain = h := by
  simp [Host.kept, Host.plain, Slot.plain, Function.comp_def]

def PluginStream.plain (s : PluginStream (Numbered ι)) : PluginStream ι :=
  ⟨s.owner, s.source, s.state.state, s.pending⟩

def Source.plain : Source (Numbered ι) → Source ι
  | .capture records => .capture records
  | .plugin stream => .plugin stream.plain

def Engine.plain (g : Engine (Numbered ι)) : Engine ι :=
  ⟨g.hostname, g.registry, g.source.map Source.plain, g.platform, g.current, g.nextNum, g.finished,
    g.counters⟩

namespace Host
variable {h : Host (Kept π)}

theorem plain_slot (h : Host (Kept π)) (slot : Nat) :
    h.plain.slots[slot]? = h.slots[slot]?.map Slot.plain := by
  simp [plain]

/-- A call into a plugin, when the plugin alone answers alike. -/
theorem call_plain (f : α → β) (run : Kept π → α × Kept π) (run' : π → β × π)
    (alike : ∀ k, run' k.plugin = (f (run k).1, (run k).2.plugin)) (slot : Nat) (action : Action)
    (absent : α) : h.plain.call slot action (f absent) run' =
      Prod.map f plain (h.call slot action absent run) := by
  unfold call
  rw [plain_slot]
  cases h.slots[slot]? with
  | none => rfl
  | some s => simp [alike, Slot.plain, plain, record, List.map_set]

section
variable [Plugin π ι]

theorem openSource_plain (p : Handle) (params : String) : h.plain.openSource p params =
    Prod.map (Outcome.map Numbered.state) plain (h.openSource p params) := by
  refine call_plain (Outcome.map Numbered.state) (fun k : Kept π => Plugin.openSource k params)
    (Plugin.openSource · params) ?_ p.slot (.openSource params)
    (.failed "plugin does not generate events")
  intro k
  rcases answer : Plugin.openSource k.plugin params with ⟨_ | _ | _, plugin⟩
  all_goals simp only [Plugin.openSource, answer]; rfl

theorem nextBatch_plain (p : Handle) (source : Numbered ι) : h.plain.nextBatch p source.state =
    Prod.map id (Prod.map Numbered.state plain) (h.nextBatch p source) := by
  have asked := h.call_plain (Prod.map id Numbered.state)
    (fun k => let (batch, k, source) := Plugin.nextBatch k source; ((batch, source), k))
    (fun s => let (batch, s, source) := Plugin.nextBatch s source.state; ((batch, source), s))
    (fun _ => rfl) p.slot .nextBatch (.ok .endOfStream, source)
  unfold nextBatch
  simp only [Prod.map_apply, id] at asked
  rw [asked]
  rfl

theorem close_plain (p : Handle) (source : Numbered ι) :
    h.plain.close p source.state = (h.close p source).plain :=
  congrArg Prod.snd (call_plain id (fun k => ((), Plugin.close k source))
    (fun s => ((), Plugin.close s source.state)) (fun _ => rfl) p.slot .close ())

theorem parse_plain (p : Handle) (e : Event) :
    h.plain.parse p e = Prod.map id plain (h.parse p e) :=
  call_plain id (Plugin.parse · e) (Plugin.parse · e) (fun _ => rfl) p.slot (.parse e) (.ok ())

end

end Host

section Operations
variable [Plugin π ι] {h : Host (Kept π)} {g : Engine (Numbered ι)}

theorem PluginStream.pull_plain (s : PluginStream (Numbered ι)) : s.plain.pull h.plain =
    Prod.map id (Prod.map plain Host.plain) (s.pull h) := by
  unfold pull
  cases pending : s.pending with
  | cons e rest => simp [plain, pending, PluginStream.raw, Host.plain]
  | nil =>
    simp only [plain, pending, Host.nextBatch_plain]
    rcases h.nextBatch s.owner s.state with ⟨_ | (_ | ⟨_, _⟩) | _ | _ | _, state, h'⟩
    all_goals rfl

theorem Source.pull_plain (s : Source (Numbered ι)) : s.plain.pull h.plain =
    Prod.map id (Prod.map plain Host.plain) (s.pull h) := by
  match s with
  | .capture [] => rfl
  | .capture (r :: rest) => rfl
  | .plugin stream =>
    simp only [Source.pull, plain, PluginStream.pull_plain]
    rfl

theorem Source.close_plain (s : Source (Numbered ι)) : s.plain.close h.plain = (s.close h).plain := by
  cases s with
  | capture records => rfl
  | plugin stream => exact Host.close_plain stream.owner stream.state

omit [Plugin π ι] in
theorem Registry.register_plain (r : Registry) (d : Descriptor π) (config : String) :
    r.register h.plain d config =
      Prod.map id (Prod.map id Host.plain) (r.register h d.kept config) := by
  obtain ⟨manifest, init⟩ := d
  have size : h.plain.slots.length = h.slots.length := by simp [Host.plain]
  have kept : Descriptor.kept ⟨manifest, init⟩ =
    ⟨manifest, fun config => (init config).map (⟨·, .empty⟩)⟩ := rfl
  rw [kept]
  unfold register
  simp only [size]
  split
  · rfl
  · split
    · rfl
    · cases init config with
      | ok state => simp [Outcome.map, Host.plain, Host.record, Slot.plain]
      | failed | panicked => rfl

namespace Engine

theorem offer_plain (h : Host (Kept π)) (e : Event) (plugins : List Handle) :
    offer h.plain e plugins = Prod.map id Host.plain (offer h e plugins) := by
  induction plugins generalizing h with
  | nil => rfl
  | cons p rest ih =>
    unfold offer
    split
    · rw [Host.parse_plain]
      rcases h.parse p e with ⟨_ | _ | _, h'⟩
      · exact ih h'
      all_goals rfl
    · exact ih h

theorem deliver_plain (g : Engine (Numbered ι)) (raw : RawEvent) : g.plain.deliver h.plain raw =
    Prod.map id (Prod.map plain Host.plain) (g.deliver h raw) := by
  unfold deliver
  simp only [number, plain, offer_plain]
  rcases offer h ⟨g.nextNum, raw.ts, raw.source, raw.eventType, raw.data, g.platform, raw.plugin⟩
    g.registry.plugins with ⟨_ | _ | _, h'⟩
  all_goals rfl

theorem next_plain : g.plain.next h.plain =
    Prod.map id (Prod.map plain Host.plain) (g.next h) := by
  obtain ⟨hostname, registry, source, platform, current, nextNum, finished, counters⟩ := g
  cases finished with
  | some status => rfl
  | none =>
    cases source with
    | none => rfl
    | some s =>
      simp only [next, plain, Option.map_some, Source.pull_plain]
      rcases s.pull h with ⟨_ | (raw | _ | _ | _), s', h'⟩
      case ok.event =>
        exact deliver_plain ⟨hostname, registry, some s', platform, none, nextNum, none, counters⟩ raw
      all_goals rfl

theorem stop_plain : g.plain.stop h.plain = Prod.map plain Host.plain (g.stop h) := by
  unfold stop plain
  cases g.source with
  | none => rfl
  | some s => simp [Source.close_plain]

theorem shutdown_plain : g.plain.shutdown h.plain = Prod.map plain Host.plain (g.shutdown h) := by
  unfold shutdown
  rw [stop_plain]
  rfl

omit [Plugin π ι] in
theorem openCapture_plain (file : Except IoFault (List UInt8)) :
    g.plain.openCapture file = Prod.map id plain (g.openCapture file) := by
  unfold openCapture isCapturing
  cases source : g.source with
  | some s => simp [plain, source]
  | none =>
    simp only [plain, source, Option.map_none, Option.isSome_none, Bool.false_eq_true, if_false]
    cases file with
    | error fault => simp [plain, source]
    | ok bytes =>
      cases answer : Capture.read bytes <;> simp [answer, plain, source, start, Source.plain]

theorem openPlugin_plain (name params : String) (platform : Bool) :
    g.plain.openPlugin h.plain name params platform =
      Prod.map id (Prod.map plain Host.plain) (g.openPlugin h name params platform) := by
  unfold openPlugin isCapturing
  cases source : g.source with
  | some s => simp [plain, source]
  | none =>
    simp only [plain, source, Option.map_none, Option.isSome_none, Bool.false_eq_true, if_false]
    cases g.registry.find? name with
    | none => simp [plain, source]
    | some owner =>
      cases generates : owner.manifest.generates with
      | none => simp [plain, source, generates]
      | some kind =>
        simp only [generates, Host.openSource_plain]
        rcases h.openSource owner params with ⟨_ | _ | _, h'⟩
        · rfl
        all_goals simp [plain, source, Outcome.map]

/-- An operation does and answers the same with and without ledgers. -/
theorem perform_plain (c : EngineCall π) : g.plain.perform h.plain c =
    Prod.map id (Prod.map plain Host.plain) (g.perform h c.kept) := by
  cases c with
  | register plugin config =>
    simp only [perform, register, EngineCall.kept, plain, Registry.register_plain]
    rfl
  | openCapture file =>
    simp only [perform, EngineCall.kept, openCapture_plain]
    rfl
  | openPlugin name params platform =>
    simp only [perform, EngineCall.kept, openPlugin_plain]
    rfl
  | next =>
    simp only [perform, EngineCall.kept, next_plain]
    rfl
  | stop =>
    simp only [perform, EngineCall.kept, stop_plain]
    rfl
  | shutdown =>
    simp only [perform, EngineCall.kept, shutdown_plain]
    rfl

end Engine

end Operations

end EventProbe
