import EventProbe.Proofs.FieldAvailability
import EventProbe.Proofs.LocatedText
import EventProbe.Proofs.PluginDelivery
import EventProbe.Proofs.RegisteredPlugins

/-! Capture files are replayed as they were recorded. The steps of a driver that opened one deliver its
records in order, each as an event of its own number, and then tell for ever that the file is over; the
general fields of an event show what the record says. -/
namespace EventProbe
open Capture (Record)

/-- The event of a record, which comes with no platform and from no plugin. -/
def Capture.Record.event (r : Record) (k : Nat) : Event :=
  ⟨k, r.ts, r.source, r.eventType, Utf8.encode r.data, none, none⟩

def stepsBy (i : Nat) (log : List (Exchange π)) : Nat :=
  log.countP fun x => x.driver == i && x.call.isNext

def replayStatus (records : List Record) (k : Nat) : Status :=
  if k < records.length then .ok else .eof

/-- What a step answers after `k` others. -/
def replayAnswer (id : Nat) (records : List Record) (k : Nat) : Status × EventHandle :=
  if k < records.length then (.ok, ⟨id, some k⟩) else (.eof, ⟨id, none⟩)

/-- The current event after `k` steps. -/
def replayEvent (records : List Record) : Nat → Option Event
  | 0 => none
  | k + 1 => records[k]?.map (·.event k)

/-- The records of the capture file that a call has opened. -/
def Exchange.records? (x : Exchange π) : Option (List Record) :=
  match x.call, x.reply with
  | .openCapture (.ok bytes), .opened (.ok _) =>
    match Capture.read bytes with
    | .ok contents => some contents.records
    | .error _ => none
  | _, _ => none

/-- An engine that took `k` steps since it opened a capture file with these records. -/
structure Engine.Replays (records : List Record) (k : Nat) (g : Engine ι) : Prop where
  platform : g.platform = none
  current : g.current = replayEvent records k
  phase : (g.finished = none ∧ g.nextNum = k ∧ k ≤ records.length ∧
      g.source = some (.capture (records.drop k))) ∨
    g.finished = some .eof ∧ records.length < k

section Steps
variable [Plugin π ι] {g : Engine ι} {d : Driver ι} {h : Host π} {records : List Record} {k : Nat}

theorem Engine.Replays.next (replays : g.Replays records k)
    (quiet : ∀ p ∈ g.registry.plugins, p.manifest.can .eventParsing = false) (h : Host π) :
    (g.next h).1 = .ok (replayStatus records k) ∧ (g.next h).2.1.Replays records (k + 1) := by
  obtain ⟨going, count, within, opened⟩ | ⟨ended, past⟩ := replays.phase
  · cases ahead : records.drop k with
    | cons r rest =>
      have here : records[k]? = some r := by
        rw [← List.head?_drop, ahead]
        rfl
      obtain ⟨bound, _⟩ := List.getElem?_eq_some_iff.mp here
      rw [ahead] at opened
      simp only [Engine.next, going, opened, Source.pull, deliver, number, offer_quiet quiet,
        replays.platform, count]
      constructor
      · rw [replayStatus, if_pos bound]
      · refine ⟨rfl, ?_, .inl ⟨rfl, rfl, bound, ?_⟩⟩
        · simp only [countEvent, replayEvent, here]
          rfl
        · simp only [countEvent, drop_succ_of_drop ahead]
    | nil =>
      have last : records.length ≤ k := List.drop_eq_nil_iff.mp ahead
      rw [ahead] at opened
      simp only [Engine.next, going, opened, Source.pull]
      constructor
      · rw [replayStatus, if_neg (Nat.not_lt.mpr last)]
      · refine ⟨replays.platform, ?_, .inr ⟨rfl, Nat.lt_succ_of_le last⟩⟩
        rw [replayEvent, List.getElem?_eq_none last, Option.map_none]
  · have last : records.length ≤ k := Nat.le_of_lt past
    simp only [Engine.next, ended]
    constructor
    · rw [replayStatus, if_neg (Nat.not_lt.mpr last)]
    · refine ⟨replays.platform, ?_, .inr ⟨rfl, Nat.lt_succ_of_lt past⟩⟩
      rw [replayEvent, List.getElem?_eq_none last, Option.map_none]

namespace Driver

/-- A driver that took `k` steps since it opened a capture file with these records. -/
structure Replays (records : List Record) (k : Nat) (d : Driver ι) : Prop where
  capturing : d.state = .capturing
  engine : d.engine.Replays records k

theorem Replays.next (replays : d.Replays records k)
    (quiet : ∀ p ∈ d.engine.registry.plugins, p.manifest.can .eventParsing = false) (h : Host π) :
    (d.next h).1 = .ok (replayAnswer d.id records k) ∧ (d.next h).2.1.Replays records (k + 1) := by
  obtain ⟨status, later⟩ := replays.engine.next quiet h
  have named := (d.engine.next_advances h).current_eq
  rw [later.current] at named
  rw [next_of_capturing replays.capturing, status, ← named]
  refine ⟨?_, replays.capturing, later⟩
  by_cases within : k < records.length
  · simp [Except.map, replayStatus, replayAnswer, replayEvent, Record.event, within]
  · simp [Except.map, replayStatus, replayAnswer, replayEvent, within]

/-- Other calls leave the replay where it is. -/
theorem Replays.perform (replays : d.Replays records k) (h : Host π) {c : DriverCall π}
    (rest : c.isNext = false) : (d.perform h c).2.1.Replays records k := by
  have effect : Effect d (d.perform h c).2.1 := d.perform_effect h (by simp [rest])
  generalize (d.perform h c).2.1 = d' at effect
  cases effect with
  | kept registry extractors collector =>
    obtain ⟨platform, current, phase⟩ := replays.engine
    exact ⟨replays.capturing, platform, current, phase⟩
  | opened source platform idle => cases idle.symm.trans replays.capturing

omit [Plugin π ι] in
theorem openCapture_replays {bytes : List UInt8} {contents : Capture.Contents}
    (accepted : Capture.read bytes = .ok contents)
    (opens : (d.openCapture (.ok bytes)).1 = .ok u) :
    (d.openCapture (.ok bytes)).2.Replays contents.records 0 := by
  cases state : d.state with
  | capturing =>
    rw [openCapture_of_capturing state] at opens
    cases opens
  | idle =>
    obtain ⟨fault, _, refused⟩ | ⟨g, started, same⟩ := openCapture_of_idle state (.ok bytes)
    · rw [refused] at opens
      cases opens
    · obtain ⟨_, found, given, read, rfl⟩ := Engine.openCapture_starts started
      cases given
      cases accepted.symm.trans read
      rw [same]
      exact ⟨rfl, rfl, rfl, .inl ⟨rfl, rfl, Nat.zero_le _, rfl⟩⟩

theorem replays_of_records {c : DriverCall π} {delivered : Option Event}
    (opens : Exchange.records? ⟨i, c, (d.perform h c).1, delivered⟩ = some records) :
    (d.perform h c).2.1.Replays records 0 := by
  unfold Exchange.records? at opens
  split at opens
  · rename_i bytes u call reply
    split at opens
    · rename_i contents accepted
      cases opens
      cases call
      have opened : Outcome.ofExcept (d.openCapture (.ok bytes)).1 = .ok u := Reply.opened.inj reply
      apply openCapture_replays (u := u) accepted
      cases answer : (d.openCapture (.ok bytes)).1 with
      | ok _ => rfl
      | error fault =>
        rw [answer] at opened
        cases opened
    · cases opens
  · cases opens

end Driver

end Steps

/-! ## Fields -/

/-- Both extractions of a field have this text, and the second one this byte range. -/
structure Driver.Shows [Plugin π ι] (d : Driver ι) (h : Host π) (handle : EventHandle)
    (field text : String) (range : Range) : Prop where
  plain : (d.extractText h field handle).1 = .ok text
  located : (d.extractWithOffsets h field handle).1 = .ok (text, range)

/-- What a driver shows of the record that a handle names, which is the one after `k` others. -/
structure Driver.ShowsRecord [Plugin π ι] (d : Driver ι) (h : Host π) (handle : EventHandle) (k : Nat)
    (r : Record) : Prop where
  num : d.Shows h handle "evt.num" (toString k) ⟨0, 0⟩
  rawTime : d.Shows h handle "evt.rawtime" (toString r.ts) ⟨0, 0⟩
  source : d.Shows h handle "evt.source" r.source ⟨0, 0⟩
  type : d.Shows h handle "evt.type" (toString r.eventType) ⟨0, 0⟩
  pluginInfo : d.Shows h handle "evt.plugininfo" r.data ⟨0, 0⟩
  dataLength : d.Shows h handle "evt.buflen" (toString r.data.utf8ByteSize) ⟨0, 0⟩
  data : (d.extractText h "evt.data" handle).1 = .ok r.data
  located : r.data.utf8ByteSize < halfWordLimit →
    (d.extractWithOffsets h "evt.data" handle).1 = .ok (r.data, ⟨0, r.data.utf8ByteSize⟩)
  /-- The event says nothing of the host that it was recorded on. -/
  platform : ∀ kind : GenericField, (FieldName.mk kind.path none).family = "platform" →
    (d.extractText h kind.path handle).1 = .failed (.nullValue kind.path) ∧
    (d.extractWithOffsets h kind.path handle).1 = .failed (.nullValue kind.path)

section Fields
variable [Plugin π ι] {d : Driver ι} {h : Host π} {x : Extractor} {e : Event} {field : String}
  {values : List Extracted} {r : Record} {k : Nat}

namespace Driver

theorem extractions_of_values (resolved : (d.extractors.resolve field).1 = .ok x)
    (current : d.engine.current = some e)
    (extracts : ∀ offsets, x.extract h e offsets = (.ok values, h)) :
    (d.extractText h field ⟨d.id, some e.num⟩).1 = shownText field (.ok values) ∧
      (d.extractWithOffsets h field ⟨d.id, some e.num⟩).1 =
        shownLocated field (.ok values) (shownText field (.ok values)) := by
  have ready : (d.prepare field ⟨d.id, some e.num⟩).1 = .ok (x, e) := by
    rw [prepare_of_ok resolved, event_eq_ok_iff.mpr ⟨current, rfl⟩]
    rfl
  rw [extractText_of_ok ready, extractWithOffsets_of_ok ready]
  constructor
  · rw [readText_eq, extracts]
  · simp only [readLocated, renderField, Extractor.render, extracts, Outcome.map, shownText]
    cases shownValues values with
    | none => rfl
    | some text =>
      simp only [locateField, Extractor.extractWithOffsets, extracts]
      rfl

theorem shows_value {v : Extracted} (resolved : (d.extractors.resolve field).1 = .ok x)
    (current : d.engine.current = some e) (extracts : ∀ offsets, x.extract h e offsets = (.ok [v], h)) :
    d.Shows h ⟨d.id, some e.num⟩ field v.value.shown (v.range.getD ⟨0, 0⟩) := by
  obtain ⟨plain, located⟩ := extractions_of_values resolved current extracts
  exact ⟨plain, located⟩

theorem shows_nothing (resolved : (d.extractors.resolve field).1 = .ok x)
    (current : d.engine.current = some e) (extracts : ∀ offsets, x.extract h e offsets = (.ok [], h)) :
    (d.extractText h field ⟨d.id, some e.num⟩).1 = .failed (.nullValue field) ∧
      (d.extractWithOffsets h field ⟨d.id, some e.num⟩).1 = .failed (.nullValue field) :=
  extractions_of_values resolved current extracts

theorem Offers.resolve_path {added : List Handle} (offers : d.Offers added) {kind : GenericField}
    (bare : kind.takesArgument = false) :
    (d.extractors.resolve kind.path).1 = .ok (.generic ⟨kind.path, none⟩ kind) := by
  have parsed : FieldName.parse kind.path = .ok ⟨kind.path, none⟩ := by cases kind <;> rfl
  exact offers.general _ _ kind parsed ⟨rfl, bare⟩

theorem Offers.showsRecord {added : List Handle} (offers : d.Offers added)
    (current : d.engine.current = some (r.event k)) (h : Host π) :
    d.ShowsRecord h ⟨d.id, some k⟩ k r := by
  have text : (r.event k).text = r.data := Utf8.lossy_encode r.data
  have size : (r.event k).data.length = r.data.utf8ByteSize := Utf8.length_encode_eq r.data
  have shows : ∀ (kind : GenericField) (v : Extracted), kind.takesArgument = false →
      (∀ offsets, (Extractor.generic ⟨kind.path, none⟩ kind).extract h (r.event k) offsets =
        (.ok [v], h)) →
      d.Shows h ⟨d.id, some k⟩ kind.path v.value.shown (v.range.getD ⟨0, 0⟩) :=
    fun kind v bare extracts => shows_value (offers.resolve_path bare) current extracts
  have data := shows .data _ rfl fun _ => rfl
  constructor
  · exact shows .num _ rfl fun _ => rfl
  · exact shows .rawTime _ rfl fun _ => rfl
  · exact shows .source _ rfl fun _ => rfl
  · exact shows .type _ rfl fun _ => rfl
  · rw [← text]
    exact shows .pluginInfo _ rfl fun _ => rfl
  · rw [← size]
    exact shows .dataLength _ rfl fun _ => rfl
  · rw [← text]
    exact data.plain
  · intro short
    have whole : Range.clamped 0 r.data.utf8ByteSize = ⟨0, r.data.utf8ByteSize⟩ :=
      Range.clamped_eq short (Nat.le_of_eq (Nat.zero_add _))
    have located := data.located
    simp only [Extracted.located, Option.getD_some, size, whole, text, FieldValue.shown] at located
    exact located
  · intro kind named
    have host : kind = .hostname ∨ kind = .os ∨ kind = .arch := by
      revert named
      cases kind <;> decide
    obtain rfl | rfl | rfl := host
    all_goals exact shows_nothing (offers.resolve_path rfl) current fun _ => rfl

end Driver

end Fields

/-! ## Runs -/

section Logs
variable {i : Nat} {x : Exchange π} {log : List (Exchange π)}

theorem stepsBy_own (i : Nat) (c : DriverCall π) (reply : Reply) (delivered : Option Event) :
    stepsBy i (⟨i, c, reply, delivered⟩ :: log) = stepsBy i log + if c.isNext then 1 else 0 := by
  simp [stepsBy, List.countP_cons]

theorem stepsBy_other (other : x.driver ≠ i) : stepsBy i (x :: log) = stepsBy i log := by
  simp [stepsBy, other]

end Logs

/-- What the log of a driver that opened a file shows of the steps that it took since. -/
def Replayed (i : Nat) (records : List Record) (newer : List (Exchange π)) : Prop :=
  ∀ later y earlier, newer = later ++ y :: earlier → y.driver = i → y.call.isNext = true →
    y.reply = .stepped (.ok (replayAnswer (i + 1) records (stepsBy i earlier)))

namespace Process
variable [Plugin π ι] {p : Process π ι} {log newer older : List (Exchange π)} {d : Driver ι} {i : Nat}
  {x : Exchange π} {records : List Record}

theorem Run.replays (run : Run p log) (there : p.driver? i = some d)
    (split : log = newer ++ x :: older) (own : x.driver = i) (opens : x.records? = some records)
    (quiet : ∀ q ∈ registeredBy i log, q.manifest.can .eventParsing = false) :
    d.Replays records (stepsBy i newer) := by
  revert newer x older records quiet
  refine Run.tracks_in (fun i log _ d => ∀ {newer older} {x : Exchange π} {records},
    log = newer ++ x :: older → x.driver = i → x.records? = some records →
    (∀ q ∈ registeredBy i log, q.manifest.can .eventParsing = false) →
      d.Replays records (stepsBy i newer)) ?_ ?_ ?_ ?_ run there
  · intro i log h id hostname flags unlogged newer older x records split own
    refine absurd own (unlogged x ?_)
    simp [split]
  · intro i log h h' d grows replays
    exact replays
  · intro i p log d c run alive replays newer older x records split own opens quiet
    have earlier : ∀ q ∈ registeredBy i log, q.manifest.can .eventParsing = false := by
      intro q known
      apply quiet
      rw [registeredBy_own]
      exact List.mem_append_left _ known
    cases newer with
    | nil =>
      obtain ⟨rfl, rfl⟩ := List.cons.inj split
      exact Driver.replays_of_records opens
    | cons y newer =>
      obtain ⟨rfl, rest⟩ := List.cons.inj split
      have before := replays rest own opens earlier
      rw [stepsBy_own]
      cases step : c.isNext with
      | false => exact before.perform p.host step
      | true =>
        cases c with
        | next =>
          rw [← run.plugins_eq alive] at earlier
          exact (before.next earlier p.host).2
        | _ => cases step
  · intro i log h d y other replays newer older x records split own opens quiet
    cases newer with
    | nil =>
      obtain ⟨rfl, rfl⟩ := List.cons.inj split
      exact absurd own other
    | cons z newer =>
      obtain ⟨rfl, rest⟩ := List.cons.inj split
      rw [registeredBy_other other] at quiet
      rw [stepsBy_other other]
      exact replays rest own opens quiet

theorem Run.replayed (run : Run p (newer ++ x :: older)) (own : x.driver = i)
    (opens : x.records? = some records)
    (quiet : ∀ q ∈ registeredBy i (newer ++ x :: older), q.manifest.can .eventParsing = false) :
    Replayed i records newer := by
  rintro later y earlier rfl stepped step
  have split : later ++ y :: earlier ++ x :: older = later ++ y :: (earlier ++ x :: older) := by simp
  obtain ⟨q, d, before, there, reply, _⟩ := run.exchange split
  rw [stepped] at there
  have known : ∀ r ∈ registeredBy i (earlier ++ x :: older), r.manifest.can .eventParsing = false := by
    intro r registered
    have grows := registeredBy_grows i (later ++ [y]) (earlier ++ x :: older)
    apply quiet
    simpa using grows registered
  have replays := before.replays there rfl own opens known
  rw [← before.plugins_eq there] at known
  cases call : y.call with
  | next =>
    rw [reply, call, ← (before.sound.tracked i d there).id]
    exact congrArg Reply.stepped (replays.next known q.host).1
  | _ => simp [call, DriverCall.isNext] at step

/-- A driver that opened a capture file, and registers no plugin that parses events, delivers the
records of the file one a step, and then tells at every step that the file is over; the fields of a
record are shown as they stand in the file, whatever other plugins and extractors there are. -/
theorem Run.replay_faithful (run : Run p (newer ++ x :: older)) (own : x.driver = i)
    (opens : x.records? = some records)
    (quiet : ∀ q ∈ registeredBy i (newer ++ x :: older), q.manifest.can .eventParsing = false) :
    Replayed i records newer ∧
      ∀ d, p.driver? i = some d → ∀ k r, stepsBy i newer = k + 1 → records[k]? = some r →
        d.ShowsRecord p.host ⟨i + 1, some k⟩ k r := by
  refine ⟨run.replayed own opens quiet, ?_⟩
  intro d there k r steps here
  have replays := run.replays there rfl own opens quiet
  have current : d.engine.current = some (r.event k) := by
    rw [replays.engine.current, steps, replayEvent, here, Option.map_some]
  rw [← (run.sound.tracked i d there).id]
  exact ((run.stocked there).offers (run.coherent there)).showsRecord current p.host

def shortFile : List UInt8 :=
  Utf8.encode
    ("\x7b\"magic\":\"inspect-capture\",\"version\":1,\"created_at\":\"2024-01-01T00:00:00Z\"\x7d\n" ++
      "\x7b\"ts\":7,\"source\":\"s\",\"event_type\":3,\"data\":\"é\"\x7d")

/-- A driver that knows the fields of a plugin opens the file and takes a step. -/
def replaying : Process Scripted Scripted.Stream × List (Exchange Scripted) :=
  let script : Scripted := ⟨none, none, .labelled "", [], [], []⟩
  let plugin := sharer 0 "bare" .none
  let fresh : Process Scripted Scripted.Stream := ⟨Host.fresh .bare, []⟩
  (fresh.create .default).play [] [
    (0, .register (Scripted.descriptor plugin.manifest none script) ""),
    (0, .addExtractors plugin "letters"), (0, .openCapture (.ok shortFile)), (0, .next)]

/-- The plugin declares a field `evt.num` too, but the general one is shown. -/
theorem replaying_faithful : ∃ newer x older d, replaying.2 = newer ++ x :: older ∧
    Replayed 0 [⟨7, "s", 3, "é"⟩] newer ∧
    replaying.1.driver? 0 = some d ∧
    d.ShowsRecord replaying.1.host ⟨1, some 0⟩ 0 ⟨7, "s", 3, "é"⟩ := by
  have run : Run replaying.1 replaying.2 := .play (.create .default (.start .bare)) _
  obtain ⟨d, there⟩ : ∃ d, replaying.1.driver? 0 = some d :=
    Option.isSome_iff_exists.mp (by decide +kernel)
  obtain ⟨x, second, own, opens⟩ : ∃ x ∈ replaying.2[1]?, x.driver = 0 ∧
      x.records? = some [⟨7, "s", 3, "é"⟩] := by decide +kernel
  have split : replaying.2 = replaying.2.take 1 ++ x :: replaying.2.drop 2 := by
    obtain ⟨bound, rfl⟩ := List.getElem?_eq_some_iff.mp second
    rw [← List.drop_eq_getElem_cons bound, List.take_append_drop]
  have quiet : ∀ q ∈ registeredBy 0 replaying.2, q.manifest.can .eventParsing = false := by
    decide +kernel
  rw [split] at run quiet
  obtain ⟨replayed, shows⟩ := run.replay_faithful own opens quiet
  exact ⟨_, _, _, d, split, replayed, there, shows d there 0 _ (by decide +kernel) rfl⟩

end Process

end EventProbe
