import EventProbe.Proofs.MetricSnapshots
import EventProbe.Proofs.Replay
import EventProbe.Proofs.StillPlugins

/-! What a plugin in a known state answers, and what a driver makes of it: the text and the range of a
field that the plugin extracts, the text with which it shows an event, and the metrics that it reports. -/
namespace EventProbe

/-- A plugin has its slot, and is in this state. -/
def Host.Keeps (h : Host π) (p : Handle) (s : π) : Prop :=
  h.slots[p.slot]? = some ⟨p.manifest, s⟩

/-! ## Calls -/

namespace Host.Keeps
variable {h h' : Host π} {p : Handle} {s : π}

theorem call (keeps : h.Keeps p s) (action : Action) (absent : α) (run : π → α × π) :
    (h.call p.slot action absent run).1 = (run s).1 ∧
      (h.call p.slot action absent run).2.Keeps p (run s).2 := by
  have bound := (List.getElem?_eq_some_iff.mp keeps).1
  have found : h.slots[p.slot]? = some ⟨p.manifest, s⟩ := keeps
  simp only [Host.call, found, true_and]
  exact List.getElem?_set_self bound

variable [Plugin π ι]

theorem later (keeps : h.Keeps p s) (still : Plugin.Still s) (leaves : h.Leaves p.slot h') :
    h'.Keeps p s :=
  leaves _ keeps still

theorem openSource (keeps : h.Keeps p s) (params : String) :
    (h.openSource p params).1 = (Plugin.openSource s params).1 :=
  (keeps.call _ _ _).1

theorem nextBatch (keeps : h.Keeps p s) (i : ι) :
    ∃ h', h.nextBatch p i = ((Plugin.nextBatch s i).1, (Plugin.nextBatch s i).2.2, h') ∧
      h'.Keeps p (Plugin.nextBatch s i).2.1 ∧ h'.now = h.now := by
  obtain ⟨answer, after⟩ := keeps.call .nextBatch (.ok .endOfStream, i) fun s =>
    (((Plugin.nextBatch s i).1, (Plugin.nextBatch s i).2.2), (Plugin.nextBatch s i).2.1)
  have now := (h.nextBatch_continues p i).now
  unfold Host.nextBatch at now ⊢
  generalize h.call p.slot .nextBatch _ _ = called at answer after now
  obtain ⟨⟨batch, source⟩, h'⟩ := called
  cases answer
  exact ⟨h', rfl, after, now⟩

/-- A source of the plugin that has handed out its events asks it for more. -/
theorem pull {i i' : ι} {answer : Except Panic Batch} {s' : π} (keeps : h.Keeps p s) (source : String)
    (gives : Plugin.nextBatch s i = (answer, s', i')) :
    ∃ h', h'.Keeps p s' ∧ Source.pull (.plugin ⟨p, source, i, []⟩) h = match answer with
      | .error panic => (.error panic, .plugin ⟨p, source, i', []⟩, h')
      | .ok (.events (e :: rest)) =>
        (.ok (.event ⟨e.ts.getD h.now, source, pluginEventType, e.data, some p⟩),
          .plugin ⟨p, source, i', rest⟩, h')
      | .ok (.events []) | .ok .timeout => (.ok .timeout, .plugin ⟨p, source, i', []⟩, h')
      | .ok .endOfStream => (.ok .eof, .plugin ⟨p, source, i', []⟩, h')
      | .ok (.failed reason) => (.ok (.failed reason), .plugin ⟨p, source, i', []⟩, h') := by
  obtain ⟨h', asked, after, now⟩ := keeps.nextBatch i
  rw [gives] at asked after
  refine ⟨h', after, ?_⟩
  simp only [Source.pull, PluginStream.pull, asked]
  rcases answer with panic | ⟨_ | ⟨e, rest⟩⟩ | _ | _ | reason
  case ok.events.cons => simp only [PluginStream.raw, now]
  all_goals rfl

theorem parse (keeps : h.Keeps p s) (e : Event) : (h.parse p e).1 = (Plugin.parse s e).1 ∧
    (h.parse p e).2.Keeps p (Plugin.parse s e).2 :=
  keeps.call _ _ _

theorem render (keeps : h.Keeps p s) (e : Event) : (h.render p e).1 = (Plugin.render s e).1 :=
  (keeps.call _ _ _).1

theorem extract (keeps : h.Keeps p s) (r : Request) : (h.extract p r).1 = (Plugin.extract s r).1 :=
  (keeps.call _ _ _).1

theorem metrics (keeps : h.Keeps p s) : (h.metrics p).1 = (Plugin.metrics s).1 :=
  (keeps.call _ _ _).1

end Host.Keeps

/-! ## Fields -/

namespace Driver
variable [Plugin π ι] {d : Driver ι} {h : Host π} {x : Extractor} {e : Event} {r : Handle} {s : π}
  {name : FieldName} {field : String} {v : Extracted} {id : Nat} {info : FieldInfo}

/-- Both extractions show a value that both passes read; the second pass comes after the first. -/
theorem shows_passes (resolved : (d.extractors.resolve field).1 = .ok x)
    (current : d.engine.current = some e) (first : (x.extract h e false).1 = .ok [v])
    (second : (x.extract (x.extract h e false).2 e true).1 = .ok [v]) :
    d.Shows h ⟨d.id, some e.num⟩ field v.value.shown (v.range.getD ⟨0, 0⟩) := by
  have ready : (d.prepare field ⟨d.id, some e.num⟩).1 = .ok (x, e) := by
    rw [prepare_of_ok resolved, event_eq_ok_iff.mpr ⟨current, rfl⟩]
    rfl
  rcases passed : x.extract h e false with ⟨answer, h'⟩
  simp only [passed] at first second
  cases first
  rcases again : x.extract h' e true with ⟨answer, h''⟩
  simp only [again] at second
  cases second
  constructor
  · rw [extractText_of_ok ready, readText_eq, passed]
    rfl
  · rw [extractWithOffsets_of_ok ready]
    simp only [readLocated, renderField, Extractor.render, passed, Outcome.map, shownValues, locateField,
      Extractor.extractWithOffsets, again]
    rfl

/-- What a still plugin extracts is shown. -/
theorem shows_extracted (resolved : (d.extractors.resolve field).1 = .ok (.plugin name r id info))
    (current : d.engine.current = some e) (reads : r.manifest.reads e.source = true)
    (keeps : h.Keeps r s) (still : Plugin.Still s)
    (answers : ∀ offsets, (Plugin.extract s (Request.make id info name e offsets)).1 = .ok [v]) :
    d.Shows h ⟨d.id, some e.num⟩ field v.value.shown (v.range.getD ⟨0, 0⟩) := by
  have passes : ∀ (h : Host π) offsets, h.Keeps r s →
      ((Extractor.plugin name r id info).extract h e offsets).1 = .ok [v] := by
    intro h offsets keeps
    simp only [Extractor.extract, reads, if_true, keeps.extract, answers, Outcome.map]
    cases info.isList <;> rfl
  have kept := keeps.later still (Host.leaves_observed.extractor h (.plugin name r id info) e false)
  exact shows_passes resolved current (passes h false keeps) (passes _ true kept)

/-- An event is shown as the plugin that generated it shows it, if it is still. -/
theorem shows_rendered {text : String}
    (resolved : (d.extractors.resolve field).1 = .ok (.generic name .pluginInfo))
    (current : d.engine.current = some e) (owner : e.plugin = some r) (keeps : h.Keeps r s)
    (still : Plugin.Still s) (answers : (Plugin.render s e).1 = .ok text) :
    d.Shows h ⟨d.id, some e.num⟩ field text ⟨0, 0⟩ := by
  have passes : ∀ (h : Host π) offsets, h.Keeps r s →
      ((Extractor.generic name .pluginInfo).extract h e offsets).1 = .ok [.plain (.text text)] := by
    intro h offsets keeps
    simp only [Extractor.extract, Extractor.extractGeneric, owner, keeps.render, answers, Outcome.map]
  have kept := keeps.later still (Host.leaves_observed.extractor h (.generic name .pluginInfo) e false)
  exact shows_passes resolved current (passes h false keeps) (passes _ true kept)

end Driver

/-! ## Metrics -/

namespace Snapshot
variable {entries : List (String × MetricValue)} {snapshot : Snapshot} {name key : String}
  {value : MetricValue}

theorem lookup_set (snapshot : Snapshot) (key : String) (value : MetricValue) (name : String) :
    (snapshot.set key value).lookup name = if name = key then some value else snapshot.lookup name := by
  induction snapshot with
  | nil =>
    by_cases same : name = key
    · simp [set, same]
    · simp [set, List.lookup_cons, same, beq_eq_false_iff_ne.mpr same]
  | cons entry rest ih =>
    obtain ⟨first, old⟩ := entry
    unfold set
    by_cases here : first = key
    · subst here
      by_cases same : name = first
      · simp [same]
      · simp [List.lookup_cons, same, beq_eq_false_iff_ne.mpr same]
    · rw [if_neg here, List.lookup_cons, List.lookup_cons, ih]
      by_cases same : name = first
      · subst same
        simp [here]
      · simp [beq_eq_false_iff_ne.mpr same]

/-- What all entries of one name say is what they come to, whatever other entries there are. -/
theorem lookup_foldl_set (snapshot : Snapshot)
    (all : ∀ entry ∈ entries, entry.1 = name → entry.2 = value)
    (known : (name, value) ∈ entries ∨ snapshot.lookup name = some value) :
    (entries.foldl (fun s entry => Snapshot.set s entry.1 entry.2) snapshot).lookup name =
      some value := by
  induction entries generalizing snapshot with
  | nil => simpa using known
  | cons entry rest ih =>
    obtain ⟨here, all⟩ := List.forall_mem_cons.mp all
    rw [List.foldl_cons]
    apply ih _ all
    rw [lookup_set]
    by_cases same : name = entry.1
    · rw [if_pos same, here same.symm]
      exact .inr rfl
    · rw [if_neg same]
      refine known.imp_left fun inside => (List.mem_cons.mp inside).resolve_left ?_
      rintro rfl
      exact same rfl

theorem lookup_inWords (entries : List (String × MetricValue)) (name : String) :
    (inWords entries).lookup name = (entries.lookup name).map MetricValue.asWord := by
  induction entries with
  | nil => rfl
  | cons entry rest ih =>
    have cons : inWords (entry :: rest) = (entry.1, entry.2.asWord) :: inWords rest := rfl
    rw [cons, List.lookup_cons, List.lookup_cons, ih]
    cases name == entry.1 <;> rfl

end Snapshot

section Metrics
variable [Plugin π ι] {d : Driver ι} {h : Host π} {p : Handle} {metrics : List Metric} {m : Metric}

/-- A name without a dot inside its parts is that of one metric of one plugin. -/
theorem shownMetrics_single {plugins : List Handle} (names : (plugins.map Handle.name).Nodup)
    (registered : p ∈ plugins) (answer : (h.metrics p).1 = .ok metrics)
    (distinct : (metrics.map Metric.name).Nodup) (reported : m ∈ metrics)
    (plugin : '.' ∉ p.name.toList) (metric : '.' ∉ m.name.toList) :
    ∀ entry ∈ plugins.flatMap (·.shownMetrics h), entry.1 = shownName p.name m.name →
      entry.2 = m.value := by
  intro entry inside same
  obtain ⟨q, known, shown⟩ := List.mem_flatMap.mp inside
  unfold Handle.shownMetrics at shown
  split at shown
  · rename_i others other
    obtain ⟨m', there, rfl⟩ := List.mem_map.mp shown
    have owner : q = p :=
      List.inj_on_of_nodup_map names known registered (eq_of_undotted plugin metric same.symm)
    subst owner
    cases answer.symm.trans other
    rw [List.inj_on_of_nodup_map distinct there reported (shownName_inj.mp same)]
  · simp at shown

/-- A driver that collects the metrics of plugins shows those of a plugin, if no plugin panics. -/
theorem Driver.metrics_shows (flags : d.collector.flags.plugins = true)
    (houses : h.Houses d.engine.registry.plugins)
    (names : (d.engine.registry.plugins.map Handle.name).Nodup)
    (reports : ∀ q ∈ d.engine.registry.plugins, ∃ metrics, (h.metrics q).1 = .ok metrics)
    (registered : p ∈ d.engine.registry.plugins) (answer : (h.metrics p).1 = .ok metrics)
    (distinct : (metrics.map Metric.name).Nodup) (plugin : '.' ∉ p.name.toList)
    (undotted : ∀ m ∈ metrics, '.' ∉ m.name.toList) :
    ∃ words, (d.metrics h).1 = .ok words ∧
      ∀ m ∈ metrics, words.lookup (shownName p.name m.name) = some m.value.asWord := by
  obtain ⟨done, entered⟩ := Collector.addPlugins_eq houses reports
    (if d.collector.flags.engine then Collector.counterValues d.engine.counters else [])
  simp only [Driver.metrics, Collector.collect, flags, if_true, done]
  refine ⟨_, rfl, fun m reported => ?_⟩
  have inside : (shownName p.name m.name, m.value) ∈
      d.engine.registry.plugins.flatMap (·.shownMetrics h) := by
    refine List.mem_flatMap.mpr ⟨p, registered, ?_⟩
    simp only [Handle.shownMetrics, answer]
    exact List.mem_map.mpr ⟨m, reported, rfl⟩
  have found := Snapshot.lookup_foldl_set
    (if d.collector.flags.engine then Collector.counterValues d.engine.counters else [])
    (shownMetrics_single names registered answer distinct reported plugin (undotted m reported))
    (.inl inside)
  rw [← entered] at found
  exact (Snapshot.lookup_inWords _ _).trans (congrArg _ found)

end Metrics

end EventProbe
