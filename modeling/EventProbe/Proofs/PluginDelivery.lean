import EventProbe.Proofs.BatchStream
import EventProbe.Proofs.EngineSteps
import EventProbe.Proofs.HostHistory
import EventProbe.Plugins.Scripted

/-! An engine delivers the stream of a source of a plugin item by item: the events that are pending,
followed by the batches that were not asked for yet, are always what is ahead in the stream. -/
namespace EventProbe

structure Moment where
  environment : Environment
  now : Nat

def Host.asOf (h : Host π) (m : Moment) : Host π :=
  { h with environment := m.environment, now := m.now }

/-- What asking a source for events yields again and again. -/
inductive Plugin.Yields [Plugin π ι] : π → ι → List Batch → Prop where
  | nil : Yields p i []
  | cons : Plugin.nextBatch p i = (.ok b, p', i') → Yields p' i' rest → Yields p i (b :: rest)

/-- What stays the same while a source is open. -/
structure Feed where
  owner : Handle
  source : String
  platform : Option Platform
  batches : List Batch
  /-- The calls into plugins that were made when the source had been opened. -/
  journal : Array Call
  /-- How the journal shows that the source is asked for events. -/
  request : Call

namespace Feed

def items (f : Feed) : List Item :=
  flatten f.batches

def event (f : Feed) (k now : Nat) (e : BatchEvent) : Event :=
  ⟨(f.items.take k).countP Item.isEvent, e.ts.getD now, f.source, pluginEventType, e.data,
    f.platform, some f.owner⟩

end Feed

section Source
variable [Plugin π ι] {f : Feed} {h : Host π} {i : ι}

/-- A host whose source was asked for `m` batches and will yield the other ones; nothing else was
called. -/
structure Host.Asked (f : Feed) (m : Nat) (h : Host π) (i : ι) : Prop where
  journal : h.journal = f.journal ++ Array.replicate m f.request
  source : ∃ slot, h.slots[f.owner.slot]? = some slot ∧
    f.request = ⟨f.owner.slot, slot.manifest.name, .nextBatch⟩ ∧
    Plugin.Yields slot.state i (f.batches.drop m)

theorem Host.Asked.asOf (asked : Host.Asked f m h i) (moment : Moment) :
    Host.Asked f m (h.asOf moment) i :=
  ⟨asked.journal, asked.source⟩

theorem Host.Asked.nextBatch (asked : Host.Asked f m h i) (ahead : f.batches.drop m = b :: rest) :
    ∃ i' h', h.nextBatch f.owner i = (.ok b, i', h') ∧ Host.Asked f (m + 1) h' i' := by
  obtain ⟨slot, found, request, yields⟩ := asked.source
  rw [ahead] at yields
  cases yields with
  | cons answer yields =>
    rename_i state i'
    have stays : (h.slots.set f.owner.slot { slot with state })[f.owner.slot]? =
        some { slot with state } :=
      List.getElem?_set_self (List.getElem?_eq_some_iff.mp found).1
    refine ⟨i', { h.record f.owner.slot slot.manifest.name .nextBatch with
      slots := h.slots.set f.owner.slot { slot with state } }, ?_, ?_, _, stays, request, ?_⟩
    · simp only [Host.nextBatch, call, found, answer, record]
    · simp only [record, ← request, asked.journal, Array.replicate_succ, Array.append_push]
    · rw [drop_succ_of_drop ahead]
      exact yields

end Source

namespace Engine

section Steps
variable [Plugin π ι] {g : Engine ι} {h : Host π} {f : Feed} {i : ι}

/-- Plugins that parse no events do not change what is delivered. -/
theorem offer_quiet {plugins : List Handle}
    (quiet : ∀ p ∈ plugins, p.manifest.can .eventParsing = false) (h : Host π) (e : Event) :
    offer h e plugins = (.ok (), h) := by
  induction plugins with
  | nil => rfl
  | cons p rest ih =>
    obtain ⟨here, quiet⟩ := List.forall_mem_cons.mp quiet
    simp only [offer, here, Bool.false_and, Bool.false_eq_true, if_false, ih quiet]

/-- A source is open from which `k` calls took `m` batches; the items that are ahead are those of the
pending events and of the batches that were not asked for. -/
structure Running (f : Feed) (k m : Nat) (g : Engine ι) (i : ι) (pending : List BatchEvent) :
    Prop where
  finished : g.finished = none
  source : g.source = some (.plugin ⟨f.owner, f.source, i, pending⟩)
  met : Met f.items k g.nextNum (pending.map .event ++ flatten (f.batches.drop m))
  fetched : (flatten (f.batches.take m)).length = k + pending.length

/-- An engine that delivers the events of a source as they come. -/
structure Attached (f : Feed) (g : Engine ι) : Prop where
  quiet : ∀ p ∈ g.registry.plugins, p.manifest.can .eventParsing = false
  platform : g.platform = f.platform

/-- An engine and its host after `k` calls of `next` that asked for `m` batches. -/
structure Follows (f : Feed) (k m : Nat) (g : Engine ι) (h : Host π) : Prop where
  attached : Attached f g
  phase : ∃ i, Host.Asked f m h i ∧ ((∃ pending, Running f k m g i pending) ∨
    ∃ status, g.finished = some status ∧
      (f.items.take k).find? Item.isStop = some (.stop status))

/-- The call of `next` after `k` others meets an item of the stream, and has asked for `m` batches by
its end. -/
structure Meets (f : Feed) (k m : Nat) (g : Engine ι) (h : Host π) (moment : Moment) (item : Item) :
    Prop where
  outcome : (g.next (h.asOf moment)).1 = .ok item.status
  current : (g.next (h.asOf moment)).2.1.current = item.seen (f.event k moment.now)
  follows : Follows f (k + 1) m (g.next (h.asOf moment)).2.1 (g.next (h.asOf moment)).2.2

/-- Once the stream is over, every call tells how it ended and asks for nothing. -/
theorem Attached.meets_end (attached : Attached f g) (asked : Host.Asked f m h i)
    (finished : g.finished = some status)
    (ended : (f.items.take k).find? Item.isStop = some (.stop status)) (moment : Moment) :
    Meets f k m g h moment (.stop status) := by
  have stepped : g.next (h.asOf moment) =
      (.ok status, { g with current := none }, h.asOf moment) := by
    simp only [next, finished]
  constructor <;> rw [stepped]
  · rfl
  · rfl
  · exact ⟨⟨attached.quiet, attached.platform⟩,
      i, asked.asOf moment, .inr ⟨status, finished, find?_take_succ ended⟩⟩

theorem Running.meets_event (running : Running f k m g i pending) (attached : Attached f g)
    (pulled : PluginStream.pull ⟨f.owner, f.source, i, pending⟩ (h.asOf moment) =
      (.ok (.event ⟨e.ts.getD moment.now, f.source, pluginEventType, e.data, some f.owner⟩),
        ⟨f.owner, f.source, i', pending'⟩, h'))
    (asked : Host.Asked f m' h' i')
    (ahead : Met f.items k g.nextNum
      (.event e :: (pending'.map .event ++ flatten (f.batches.drop m'))))
    (fetched : (flatten (f.batches.take m')).length = k + 1 + pending'.length) :
    Meets f k m' g h moment (.event e) := by
  have stepped : g.next (h.asOf moment) = (.ok .ok,
      countEvent
        { g with
          current := none
          source := some (.plugin ⟨f.owner, f.source, i', pending'⟩)
          nextNum := g.nextNum + 1 }
        (f.event k moment.now e), h') := by
    simp only [next, running.finished, running.source, Source.pull, pulled, deliver, number,
      offer_quiet attached.quiet, Feed.event, ahead.count, attached.platform]
  constructor <;> rw [stepped]
  · rfl
  · rfl
  · exact ⟨⟨attached.quiet, attached.platform⟩,
      i', asked, .inl ⟨pending', running.finished, rfl, ahead.event, fetched⟩⟩

theorem Running.meets_pause (running : Running f k m g i []) (attached : Attached f g)
    (pulled : PluginStream.pull ⟨f.owner, f.source, i, []⟩ (h.asOf moment) =
      (.ok .timeout, ⟨f.owner, f.source, i', []⟩, h'))
    (asked : Host.Asked f m' h' i')
    (ahead : Met f.items k g.nextNum (.pause :: flatten (f.batches.drop m')))
    (fetched : (flatten (f.batches.take m')).length = k + 1) :
    Meets f k m' g h moment .pause := by
  have stepped : g.next (h.asOf moment) = (.ok .timeout,
      countTimeout
        { g with
          current := none
          source := some (.plugin ⟨f.owner, f.source, i', []⟩) }, h') := by
    simp only [next, running.finished, running.source, Source.pull, pulled]
  constructor <;> rw [stepped]
  · rfl
  · rfl
  · exact ⟨⟨attached.quiet, attached.platform⟩,
      i', asked, .inl ⟨[], running.finished, rfl, ahead.pause, fetched⟩⟩

/-- A call that finds the end of the stream tells how it ended. -/
theorem Attached.meets_stop (attached : Attached f g) (asked : Host.Asked f m h' i')
    (ahead : Met f.items k num (.stop status :: rest))
    (stepped : g.next (h.asOf moment) = (.ok status,
      { g with current := none, source := some s, finished := some status }, h')) :
    Meets f k m g h moment (.stop status) := by
  constructor <;> rw [stepped]
  · rfl
  · rfl
  · exact ⟨⟨attached.quiet, attached.platform⟩, i', asked, .inr ⟨status, rfl, ahead.stop⟩⟩

/-- A call takes the first pending event and asks for nothing. -/
theorem Running.meets_pending (running : Running f k m g i (e :: rest)) (attached : Attached f g)
    (asked : Host.Asked f m h i) (moment : Moment) : Meets f k m g h moment (.event e) :=
  running.meets_event attached rfl (asked.asOf moment) running.met
    (by rw [running.fetched, List.length_cons, Nat.add_right_comm, Nat.add_assoc])

/-- A call without pending events asks for a batch and takes its first item. -/
theorem Running.meets_batch (running : Running f k m g i []) (attached : Attached f g)
    (asked : Host.Asked f m h i) (ahead : f.batches.drop m = b :: rest) (moment : Moment) :
    Meets f k (m + 1) g h moment b.first := by
  obtain ⟨i', h', answer, asked⟩ := (asked.asOf moment).nextBatch ahead
  have now : h'.now = moment.now := by
    have later := ((h.asOf moment).nextBatch_continues f.owner i).now
    rw [answer] at later
    exact later
  have fetched : (flatten (f.batches.take (m + 1))).length = k + b.items.length := by
    rw [take_succ_of_drop ahead, flatten_append, List.length_append, running.fetched]
    simp only [flatten, List.flatMap_cons, List.flatMap_nil, List.append_nil, List.length_nil,
      Nat.add_zero]
  have met := running.met
  rw [ahead, flatten_cons, List.map_nil, List.nil_append, ← drop_succ_of_drop ahead] at met
  cases b with
  | events list =>
    cases list with
    | nil =>
      exact running.meets_pause attached (by simp only [PluginStream.pull, answer]) asked met fetched
    | cons e es =>
      have met : Met f.items k g.nextNum
          (.event e :: (es.map .event ++ flatten (f.batches.drop (m + 1)))) := met
      refine running.meets_event attached ?_ asked met ?_
      · simp only [PluginStream.pull, answer, PluginStream.raw, now]
      · have count : (Batch.events (e :: es)).items.length = es.length + 1 := List.length_map _
        omega
  | timeout =>
    exact running.meets_pause attached (by simp only [PluginStream.pull, answer]) asked met fetched
  | endOfStream =>
    exact attached.meets_stop (s := .plugin ⟨f.owner, f.source, i', []⟩) asked met
      (by simp only [next, running.finished, running.source, Source.pull, PluginStream.pull, answer])
  | failed reason =>
    exact attached.meets_stop (s := .plugin ⟨f.owner, f.source, i', []⟩) asked met
      (by simp only [next, running.finished, running.source, Source.pull, PluginStream.pull, answer])

/-- Every item of `m` batches was met by `k` calls, and none of them ended the stream. -/
def Spent (f : Feed) (k m : Nat) : Prop :=
  (flatten (f.batches.take m)).length = k ∧ ∀ item ∈ flatten (f.batches.take m), ¬ item.isStop

theorem Running.spent (running : Running f k m g i []) : Spent f k m := by
  have fetched : (flatten (f.batches.take m)).length = k := running.fetched
  have all : f.items.take k = flatten (f.batches.take m) := by
    calc
      f.items.take k = (flatten (f.batches.take m ++ f.batches.drop m)).take k := by
        rw [List.take_append_drop]
        rfl
      _ = flatten (f.batches.take m) := by
        rw [flatten_append, ← fetched, List.take_left]
  refine ⟨running.fetched, ?_⟩
  rw [← all]
  exact List.find?_eq_none.mp running.met.going

/-- A call that meets an item asks for a batch only if every item of the earlier batches was met. -/
theorem Follows.meets (follows : Follows f k m g h) (met : meets f.items k = some item)
    (moment : Moment) :
    ∃ m', Meets f k m' g h moment item ∧ (m' = m ∨ m' = m + 1 ∧ Spent f k m) := by
  obtain ⟨i, asked, ⟨pending, running⟩ | ⟨status, finished, ended⟩⟩ := follows.phase
  · cases pending with
    | cons e rest =>
      cases Option.some.inj (met.symm.trans running.met.meets_eq)
      exact ⟨m, running.meets_pending follows.attached asked moment, .inl rfl⟩
    | nil =>
      cases ahead : f.batches.drop m with
      | nil =>
        have nothing := running.met
        rw [ahead] at nothing
        cases met.symm.trans nothing.meets_none
      | cons b rest =>
        have first := running.met
        rw [ahead, flatten_cons, b.items_eq] at first
        cases Option.some.inj (met.symm.trans first.meets_eq)
        exact ⟨m + 1, running.meets_batch follows.attached asked ahead moment,
          .inr ⟨rfl, running.spent⟩⟩
  · cases Option.some.inj (met.symm.trans (meets_of_stop ended))
    exact ⟨m, follows.attached.meets_end asked finished ended moment, .inl rfl⟩

def steps (g : Engine ι) (h : Host π) : List Moment → Engine ι × Host π
  | [] => (g, h)
  | moment :: earlier =>
    let (g, h) := steps g h earlier
    let (_, g, h) := g.next (h.asOf moment)
    (g, h)

/-- What a call of `next` shows after other ones: its outcome, and the current event. -/
def shown (g : Engine ι) (h : Host π) (earlier : List Moment) (moment : Moment) :
    Except Panic Status × Option Event :=
  let (g, h) := g.steps h earlier
  let (outcome, g, _) := g.next (h.asOf moment)
  (outcome, g.current)

theorem Follows.steps (follows : Follows f 0 0 g h) (earlier : List Moment)
    (met : EventProbe.meets f.items earlier.length = some item) :
    ∃ m, Follows f earlier.length m (g.steps h earlier).1 (g.steps h earlier).2 := by
  induction earlier generalizing item with
  | nil => exact ⟨0, follows⟩
  | cons moment earlier ih =>
    obtain ⟨item, met⟩ := meets_of_succ met
    obtain ⟨m, reached⟩ := ih met
    obtain ⟨m', step, _⟩ := reached.meets met moment
    exact ⟨m', step.follows⟩

end Steps

section Sources
variable [Plugin π ι] {g : Engine ι} {h : Host π} {f : Feed} {source : String}

/-- An idle engine whose plugin, asked for a source, opens one that yields these batches. No plugin
parses events. -/
structure Opens (g : Engine ι) (h : Host π) (name params : String) (owner : Handle) (source : String)
    (batches : List Batch) : Prop where
  idle : g.source = none
  found : g.registry.find? name = some owner
  generates : owner.manifest.generates = some source
  quiet : ∀ p ∈ g.registry.plugins, p.manifest.can .eventParsing = false
  yields : ∃ i h' slot, h.openSource owner params = (.ok i, h') ∧
    h'.slots[owner.slot]? = some slot ∧ Plugin.Yields slot.state i batches

def platformAt (g : Engine ι) (h : Host π) (platform : Bool) : Option Platform :=
  if platform then some (Platform.detect h.environment g.hostname) else none

theorem Opens.follows (opens : g.Opens h name params owner source batches) (platform : Bool) :
    ∃ opened h' request, g.openPlugin h name params platform = (.ok (), opened, h') ∧
      request.slot = owner.slot ∧ request.action = .nextBatch ∧
      Follows ⟨owner, source, g.platformAt h platform, batches, h'.journal, request⟩ 0 0 opened h' := by
  obtain ⟨i, h', slot, answer, found, yields⟩ := opens.yields
  have environment : h'.environment = h.environment := by
    have later := (h.openSource_continues owner params).environment
    rw [answer] at later
    exact later
  refine ⟨g.start (.plugin ⟨owner, source, i, []⟩) (g.platformAt h platform), h',
    ⟨owner.slot, slot.manifest.name, .nextBatch⟩, ?_, rfl, rfl, ⟨opens.quiet, rfl⟩, i, ?_, ?_⟩
  · simp only [openPlugin, isCapturing, opens.idle, Option.isSome_none, Bool.false_eq_true, if_false,
      opens.found, opens.generates, answer, environment, platformAt]
  · exact ⟨by simp, slot, found, rfl, yields⟩
  · exact .inl ⟨[], rfl, rfl, ⟨rfl, rfl, rfl⟩, rfl⟩

/-- What calls of `next` on an opened source do: each meets its item of the flat stream, and asks for
at most one batch, after every item of the earlier batches was met. -/
structure Delivers (f : Feed) (opened : Engine ι) (h : Host π) : Prop where
  shown : ∀ earlier moment item, EventProbe.meets f.items earlier.length = some item →
    opened.shown h earlier moment =
      (.ok item.status, item.seen (f.event earlier.length moment.now))
  asks : ∀ earlier moment item, EventProbe.meets f.items earlier.length = some item →
    ∃ m, (opened.steps h earlier).2.journal = f.journal ++ Array.replicate m f.request ∧
      ((opened.steps h (moment :: earlier)).2.journal = (opened.steps h earlier).2.journal ∨
        (opened.steps h (moment :: earlier)).2.journal =
          (opened.steps h earlier).2.journal.push f.request ∧ Spent f earlier.length m)

theorem Follows.delivers (follows : Follows f 0 0 g h) : Delivers f g h where
  shown earlier moment item met := by
    obtain ⟨m, reached⟩ := follows.steps earlier met
    obtain ⟨m', step, _⟩ := reached.meets met moment
    exact Prod.ext step.outcome step.current
  asks earlier moment item met := by
    obtain ⟨m, reached⟩ := follows.steps earlier met
    obtain ⟨m', step, asks⟩ := reached.meets met moment
    obtain ⟨i, before, _⟩ := reached.phase
    obtain ⟨i', after, _⟩ := step.follows.phase
    refine ⟨m, before.journal, ?_⟩
    rw [before.journal]
    obtain rfl | ⟨rfl, spent⟩ := asks
    · exact .inl after.journal
    · refine .inr ⟨after.journal.trans ?_, spent⟩
      rw [Array.replicate_succ, Array.append_push]

/-- An engine delivers exactly the flat stream of the batches that a source yields. So another source
that yields the same events in other batches shows the same. -/
theorem Opens.delivers_flat_stream (opens : g.Opens h name params owner source batches)
    (platform : Bool) :
    ∃ opened h' request, g.openPlugin h name params platform = (.ok (), opened, h') ∧
      request.slot = owner.slot ∧ request.action = .nextBatch ∧
      Delivers ⟨owner, source, g.platformAt h platform, batches, h'.journal, request⟩ opened h' ∧
      ∀ (g₂ : Engine ι) (h₂ : Host π) name₂ params₂ batches₂,
        g₂.Opens h₂ name₂ params₂ owner source batches₂ → Recut batches batches₂ →
        g₂.hostname = g.hostname → h₂.environment = h.environment →
        ∃ opened₂ h₂', g₂.openPlugin h₂ name₂ params₂ platform = (.ok (), opened₂, h₂') ∧
          ∀ earlier moment, (EventProbe.meets (flatten batches) earlier.length).isSome →
            opened₂.shown h₂' earlier moment = opened.shown h' earlier moment := by
  obtain ⟨opened, h', request, started, slot, action, follows⟩ := opens.follows platform
  refine ⟨opened, h', request, started, slot, action, follows.delivers, ?_⟩
  intro g₂ h₂ name₂ params₂ batches₂ opens₂ recut hostname environment
  obtain ⟨opened₂, h₂', request₂, started₂, _, _, follows₂⟩ := opens₂.follows platform
  refine ⟨opened₂, h₂', started₂, ?_⟩
  intro earlier moment hit
  obtain ⟨item, met⟩ := Option.isSome_iff_exists.mp hit
  have met₂ := met
  rw [recut.flatten_eq] at met₂
  rw [follows.delivers.shown earlier moment item met,
    follows₂.delivers.shown earlier moment item met₂]
  congr 2
  funext e
  simp only [Feed.event, Feed.items, recut.flatten_eq, platformAt, hostname, environment]

end Sources

end Engine

/-- A script may have its sources yield any batches. -/
theorem Scripted.yields (p : Scripted) (batches : List Batch) :
    Plugin.Yields p (batches.map Scripted.Step.batch) batches := by
  induction batches with
  | nil => exact .nil
  | cons b rest ih => exact .cons rfl ih

namespace Engine

def scripted : Handle :=
  ⟨0, "scripted", "", "", .of [.eventSourcing], some "script", [], []⟩

def playing (batches : List Batch) : Engine Scripted.Stream × Host Scripted :=
  let script : Scripted := ⟨none, some (batches.map .batch), .labelled "", [], [], []⟩
  ({ Engine.fresh none with registry := ⟨[scripted]⟩ },
    ⟨[⟨scripted.manifest, script⟩], #[], .bare, 0, 0⟩)

theorem playing_opens (batches : List Batch) :
    (playing batches).1.Opens (playing batches).2 "scripted" "" scripted "script" batches where
  idle := rfl
  found := rfl
  generates := rfl
  quiet := by
    intro p registered
    cases List.mem_singleton.mp registered
    rfl
  yields := ⟨_, _, _, rfl, rfl, Scripted.yields _ batches⟩

/-- The second of two events is shown alike whether they come in one batch or in two. -/
theorem playing_shows_second : ∃ opened h opened₂ h₂,
    (playing [.events [⟨some 7, [97]⟩, ⟨none, [98]⟩]]).1.openPlugin
      (playing [.events [⟨some 7, [97]⟩, ⟨none, [98]⟩]]).2 "scripted" "" true = (.ok (), opened, h) ∧
    (playing [.events [⟨some 7, [97]⟩], .events [⟨none, [98]⟩]]).1.openPlugin
      (playing [.events [⟨some 7, [97]⟩], .events [⟨none, [98]⟩]]).2 "scripted" "" true =
        (.ok (), opened₂, h₂) ∧
    opened.shown h [⟨.bare, 8⟩] ⟨.bare, 9⟩ = (.ok .ok, some ⟨1, 9, "script", 322, [98],
      some ⟨"localhost", "linux", "x86_64"⟩, some scripted⟩) ∧
    opened₂.shown h₂ [⟨.bare, 8⟩] ⟨.bare, 9⟩ = opened.shown h [⟨.bare, 8⟩] ⟨.bare, 9⟩ := by
  have recut : Recut [.events [⟨some 7, [97]⟩, ⟨none, [98]⟩]]
      [.events [⟨some 7, [97]⟩], .events [⟨none, [98]⟩]] :=
    @Recut.cut [] [] [[⟨some 7, [97]⟩, ⟨none, [98]⟩]] [[⟨some 7, [97]⟩], [⟨none, [98]⟩]]
      (by decide) (by decide) rfl .nil
  obtain ⟨opened, h, request, started, _, _, delivers, alike⟩ :=
    (playing_opens [.events [⟨some 7, [97]⟩, ⟨none, [98]⟩]]).delivers_flat_stream true
  obtain ⟨opened₂, h₂, started₂, alike⟩ := alike _ _ "scripted" "" _ (playing_opens _) recut rfl rfl
  refine ⟨opened, h, opened₂, h₂, started, started₂, ?_, alike [⟨.bare, 8⟩] ⟨.bare, 9⟩ rfl⟩
  exact delivers.shown [⟨.bare, 8⟩] ⟨.bare, 9⟩ (.event ⟨none, [98]⟩) rfl

end Engine

end EventProbe
