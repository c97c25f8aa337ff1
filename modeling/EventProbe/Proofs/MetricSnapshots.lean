import EventProbe.Plugins.Scripted
import EventProbe.Proofs.RegisteredPlugins
import Mathlib.Data.List.Induction
import Mathlib.Data.List.Nodup

/-! What a driver answers when it is asked for its metrics. Every metric is shown under a name made of the
name of its plugin and its own, and metrics with one shown name share one entry, so that the answer is
complete exactly if the shown names are different. Plugins whose names do not continue each other after a
dot, and are not that of the engine, never share a name. -/
namespace EventProbe

/-! ## Entries that share names -/

namespace Snapshot
variable {entries : List (String × MetricValue)} {name : String} {value : MetricValue}

/-- Each name once, where it comes first, with the value that it has last. -/
def merge (entries : List (String × MetricValue)) : Snapshot :=
  (entries.map Prod.fst).eraseDups.map fun name =>
    (name, (entries.reverse.lookup name).getD (.u64 0))

def inWords (entries : List (String × MetricValue)) : List (String × Nat) :=
  entries.map fun (name, value) => (name, value.asWord)

theorem nodup_eraseDups (names : List String) : names.eraseDups.Nodup := by
  generalize size : names.length = n
  induction n using Nat.strongRecOn generalizing names with
  | ind n ih =>
    cases names with
    | nil => simp
    | cons name rest =>
      rw [List.eraseDups_cons, List.nodup_cons]
      constructor
      · simp [List.mem_eraseDups]
      · have shorter := List.length_filter_le (fun b => !b == name) rest
        simp only [List.length_cons] at size
        exact ih _ (by omega) _ rfl

theorem eraseDups_of_nodup {names : List String} (distinct : names.Nodup) : names.eraseDups = names := by
  induction names with
  | nil => rfl
  | cons name rest ih =>
    obtain ⟨new, distinct⟩ := List.nodup_cons.mp distinct
    have kept : rest.filter (fun b => !b == name) = rest := by
      apply List.filter_eq_self.mpr
      intro other inside
      have ne : other ≠ name := fun same => new (same ▸ inside)
      simp [ne]
    rw [List.eraseDups_cons, kept, ih distinct]

/-- Setting a name that is there changes its value in its place. -/
theorem set_of_mem {names : List String} (distinct : names.Nodup) (values : String → MetricValue)
    (there : name ∈ names) : Snapshot.set (names.map fun n => (n, values n)) name value =
      names.map fun n => (n, if n = name then value else values n) := by
  induction names with
  | nil => simp at there
  | cons first rest ih =>
    obtain ⟨new, distinct⟩ := List.nodup_cons.mp distinct
    simp only [List.map_cons, set]
    by_cases same : first = name
    · subst same
      simp only [if_true, List.cons.injEq, true_and]
      apply List.map_congr_left
      intro n inside
      have ne : n ≠ first := fun same => new (same ▸ inside)
      rw [if_neg ne]
    · rw [if_neg same, if_neg same, ih distinct ((List.mem_cons.mp there).resolve_left (Ne.symm same))]

theorem set_of_not_mem {snapshot : Snapshot} (new : name ∉ snapshot.map Prod.fst) :
    snapshot.set name value = snapshot ++ [(name, value)] := by
  induction snapshot with
  | nil => rfl
  | cons entry rest ih =>
    obtain ⟨key, old⟩ := entry
    simp only [List.map_cons, List.mem_cons, not_or] at new
    rw [set, if_neg (Ne.symm new.1), ih new.2, List.cons_append]

theorem map_fst_merge (entries : List (String × MetricValue)) :
    (merge entries).map Prod.fst = (entries.map Prod.fst).eraseDups := by
  simp [merge, Function.comp_def]

theorem map_fst_inWords (entries : List (String × MetricValue)) :
    (inWords entries).map Prod.fst = entries.map Prod.fst := by
  simp [inWords, Function.comp_def]

/-- One more entry has the last word about its name. -/
theorem merge_append (before : List (String × MetricValue)) (name : String) (value : MetricValue) :
    merge (before ++ [(name, value)]) = (merge before).set name value := by
  have values : ∀ n, ((before ++ [(name, value)]).reverse.lookup n).getD (.u64 0) =
      if n = name then value else (before.reverse.lookup n).getD (.u64 0) := by
    intro n
    rw [List.reverse_append, List.reverse_singleton, List.singleton_append, List.lookup_cons]
    by_cases same : n = name
    · simp [same]
    · simp [same, beq_eq_false_iff_ne.mpr same]
  simp only [merge, values, List.map_append, List.map_singleton, List.eraseDups_append]
  by_cases known : name ∈ before.map Prod.fst
  · have none : [name].removeAll (before.map Prod.fst) = [] := by
      simpa [List.removeAll] using known
    rw [none, set_of_mem (nodup_eraseDups _) _ (List.mem_eraseDups.mpr known)]
    simp
  · have one : [name].removeAll (before.map Prod.fst) = [name] := by
      simpa [List.removeAll] using known
    rw [one, set_of_not_mem]
    · have others : ∀ n ∈ (before.map Prod.fst).eraseDups,
          (n, if n = name then value else (before.reverse.lookup n).getD (.u64 0)) =
            (n, (before.reverse.lookup n).getD (.u64 0)) := by
        intro n inside
        have ne : n ≠ name := fun same => known (same ▸ List.mem_eraseDups.mp inside)
        rw [if_neg ne]
      rw [List.map_congr_left others, eraseDups_of_nodup (List.nodup_singleton name)]
      simp
    · simpa [Function.comp_def, List.mem_eraseDups] using known

/-- Entries that are set one after the other are merged. -/
theorem foldl_set (entries : List (String × MetricValue)) :
    entries.foldl (fun s entry => Snapshot.set s entry.1 entry.2) [] = merge entries := by
  induction entries using List.reverseRecOn with
  | nil => rfl
  | append_singleton before entry ih =>
    rw [List.foldl_append, ih, List.foldl_cons, List.foldl_nil, merge_append]

theorem lookup_of_mem (distinct : (entries.map Prod.fst).Nodup) (inside : (name, value) ∈ entries) :
    entries.lookup name = some value := by
  induction entries with
  | nil => simp at inside
  | cons entry rest ih =>
    obtain ⟨new, distinct⟩ := List.nodup_cons.mp distinct
    obtain rfl | inside := List.mem_cons.mp inside
    · simp
    · have ne : name ≠ entry.1 := by
        rintro rfl
        exact new (List.mem_map.mpr ⟨_, inside, rfl⟩)
      rw [List.lookup_cons, beq_eq_false_iff_ne.mpr ne]
      exact ih distinct inside

/-- Entries with different names stay as they are. -/
theorem merge_of_nodup (distinct : (entries.map Prod.fst).Nodup) : merge entries = entries := by
  have reversed : (entries.reverse.map Prod.fst).Nodup := by
    rw [List.map_reverse]
    exact List.pairwise_reverse.mpr (distinct.imp Ne.symm)
  rw [merge, eraseDups_of_nodup distinct, List.map_map]
  refine (List.map_congr_left ?_).trans (List.map_id entries)
  rintro ⟨name, value⟩ inside
  simp [lookup_of_mem reversed (List.mem_reverse.mpr inside)]

/-- Nothing is lost exactly if the names are different. -/
theorem merge_eq_iff : inWords (merge entries) = inWords entries ↔ (entries.map Prod.fst).Nodup := by
  constructor
  · intro same
    have names := congrArg (List.map Prod.fst) same
    rw [map_fst_inWords, map_fst_inWords, map_fst_merge] at names
    rw [← names]
    exact nodup_eraseDups _
  · intro distinct
    rw [merge_of_nodup distinct]

end Snapshot

/-! ## Shown names -/

def shownName (plugin metric : String) : String :=
  plugin ++ "." ++ metric

section Names
variable {p q m m' : String}

theorem toList_shownName (p m : String) : (shownName p m).toList = p.toList ++ '.' :: m.toList := by
  simp [shownName]

theorem shownName_inj : shownName p m = shownName p m' ↔ m = m' := by
  simp [← String.toList_inj, toList_shownName]

/-- Metrics of two plugins have one shown name only if the name of one of the plugins continues that of
the other after a dot. -/
theorem eq_or_continues (same : shownName p m = shownName q m') :
    p = q ∨ (∃ rest, p = shownName q rest) ∨ ∃ rest, q = shownName p rest := by
  have lists := congrArg String.toList same
  rw [toList_shownName, toList_shownName, List.append_eq_append_iff] at lists
  obtain ⟨between, q_eq, rest⟩ | ⟨between, p_eq, rest⟩ := lists
  · cases between with
    | nil => exact .inl (String.toList_inj.mp (by simpa using q_eq.symm))
    | cons c tail =>
      obtain ⟨rfl, -⟩ := List.cons.inj rest
      refine .inr (.inr ⟨String.ofList tail, String.toList_inj.mp ?_⟩)
      rw [toList_shownName, String.toList_ofList, q_eq]
  · cases between with
    | nil => exact .inl (String.toList_inj.mp (by simpa using p_eq))
    | cons c tail =>
      obtain ⟨rfl, -⟩ := List.cons.inj rest
      refine .inr (.inl ⟨String.ofList tail, String.toList_inj.mp ?_⟩)
      rw [toList_shownName, String.toList_ofList, p_eq]

/-- A shown name with one dot tells its plugin. -/
theorem eq_of_undotted (plugin : '.' ∉ p.toList) (metric : '.' ∉ m.toList)
    (same : shownName p m = shownName q m') : q = p := by
  obtain rfl | ⟨rest, rfl⟩ | ⟨rest, rfl⟩ := eq_or_continues same
  · rfl
  · simp [toList_shownName] at plugin
  · have lists := congrArg String.toList same
    simp only [toList_shownName, List.append_assoc, List.append_cancel_left_eq, List.cons_append,
      List.cons.injEq, true_and] at lists
    simp [lists] at metric

end Names

/-! ## Collecting -/

section Collecting
variable [Plugin π ι] {h : Host π} {p : Handle} {plugins : List Handle}

/-- The entries for what a plugin reports, in this order. -/
def Handle.shownMetrics (h : Host π) (p : Handle) : List (String × MetricValue) :=
  match (h.metrics p).1 with
  | .ok metrics => metrics.map fun m => (shownName p.name m.name, m.value)
  | .error _ => []

/-- The entries for the counters of an engine, and for what each plugin reports, in the order of the
plugins. -/
def shownMetrics (c : Counters) (h : Host π) (plugins : List Handle) : List (String × MetricValue) :=
  [("engine.n_evts", .u64 c.events), ("engine.n_timeouts", .u64 c.timeouts),
    ("engine.n_drops", .u64 c.drops)] ++ plugins.flatMap (·.shownMetrics h)

/-- The names of the plugins keep their metrics apart. -/
structure SeparateNames (plugins : List Handle) : Prop where
  engine : ∀ p ∈ plugins, p.name ≠ "engine"
  dotted : ∀ p ∈ plugins, ∀ q ∈ plugins, ∀ rest, q.name ≠ shownName p.name rest

omit [Plugin π ι] in
/-- Names without dots are separate. -/
theorem separateNames_of_undotted (engine : ∀ p ∈ plugins, p.name ≠ "engine")
    (undotted : ∀ p ∈ plugins, '.' ∉ p.name.toList) : SeparateNames plugins where
  engine := engine
  dotted p _ q registered rest same := by
    have none := undotted q registered
    simp [same, toList_shownName] at none

theorem Host.metrics_other {q : Handle} (ne : p.slot ≠ q.slot) :
    ((h.metrics p).2.metrics q).1 = (h.metrics q).1 :=
  call_answer (h.call_other ne .metrics _ _) .metrics _ _

/-- When no plugin panics, a collector enters all metrics of all plugins. -/
theorem Collector.addPlugins_eq (houses : h.Houses plugins)
    (reports : ∀ p ∈ plugins, ∃ metrics, (h.metrics p).1 = .ok metrics) (snapshot : Snapshot) :
    (addPlugins h plugins snapshot).1 = .ok () ∧ (addPlugins h plugins snapshot).2.1 =
      (plugins.flatMap (·.shownMetrics h)).foldl (fun s entry => Snapshot.set s entry.1 entry.2)
        snapshot := by
  induction plugins generalizing h snapshot with
  | nil => exact ⟨rfl, rfl⟩
  | cons p rest ih =>
    obtain ⟨⟨metrics, answer⟩, reports⟩ := List.forall_mem_cons.mp reports
    have others : ∀ q ∈ rest, ((h.metrics p).2.metrics q).1 = (h.metrics q).1 := by
      intro q later
      exact Host.metrics_other ((List.pairwise_cons.mp houses.distinct).1 q later)
    have houses' := houses.tail.later (h.metrics_continues p).manifests
    have entries : rest.flatMap (·.shownMetrics (h.metrics p).2) =
        rest.flatMap (·.shownMetrics h) := by
      apply List.flatMap_congr
      intro q later
      simp only [Handle.shownMetrics, others q later]
    have reports' : ∀ q ∈ rest, ∃ metrics, ((h.metrics p).2.metrics q).1 = .ok metrics := by
      intro q later
      rw [others q later]
      exact reports q later
    have own : p.shownMetrics h = metrics.map fun m => (shownName p.name m.name, m.value) := by
      simp only [Handle.shownMetrics, answer]
    rw [List.flatMap_cons, List.foldl_append, ← entries, own, List.foldl_map]
    unfold addPlugins
    rcases called : h.metrics p with ⟨result, h'⟩
    simp only [called] at answer houses' reports'
    subst answer
    exact ih houses' reports' _

theorem Collector.collect_eq {c : Collector} {g : Engine ι} (both : c.flags = ⟨true, true⟩)
    (houses : h.Houses g.registry.plugins)
    (reports : ∀ p ∈ g.registry.plugins, ∃ metrics, (h.metrics p).1 = .ok metrics) :
    (c.collect g h).1 = .ok () ∧ (c.collect g h).2.1.snapshot =
      Snapshot.merge (shownMetrics g.counters h g.registry.plugins) := by
  obtain ⟨done, entered⟩ := addPlugins_eq houses reports (counterValues g.counters)
  unfold collect
  simp only [both, if_true]
  refine ⟨done, entered.trans ?_⟩
  rw [← Snapshot.foldl_set, shownMetrics, List.foldl_append]
  rfl

theorem Handle.map_fst_shownMetrics {metrics : List Metric} (answer : (h.metrics p).1 = .ok metrics) :
    (p.shownMetrics h).map Prod.fst = metrics.map fun m => shownName p.name m.name := by
  simp [shownMetrics, answer, Function.comp_def]

theorem Handle.shownMetrics_nodup {metrics : List Metric} (answer : (h.metrics p).1 = .ok metrics)
    (distinct : (metrics.map Metric.name).Nodup) : ((p.shownMetrics h).map Prod.fst).Nodup := by
  have split : (metrics.map fun m => shownName p.name m.name) =
      (metrics.map Metric.name).map (shownName p.name) := by
    simp
  rw [map_fst_shownMetrics answer, split]
  exact distinct.map fun _ _ => shownName_inj.mp

theorem Handle.exists_shownName {metrics : List Metric} (answer : (h.metrics p).1 = .ok metrics)
    {name : String} (inside : name ∈ (p.shownMetrics h).map Prod.fst) :
    ∃ m, name = shownName p.name m := by
  rw [map_fst_shownMetrics answer] at inside
  obtain ⟨m, _, rfl⟩ := List.mem_map.mp inside
  exact ⟨m.name, rfl⟩

omit [Plugin π ι] in
theorem exists_undotted_of_counter {name : String}
    (counter : name ∈ ["engine.n_evts", "engine.n_timeouts", "engine.n_drops"]) :
    ∃ metric, '.' ∉ metric.toList ∧ name = shownName "engine" metric := by
  simp only [List.mem_cons, List.not_mem_nil, or_false] at counter
  obtain rfl | rfl | rfl := counter
  · exact ⟨"n_evts", by decide, by decide⟩
  · exact ⟨"n_timeouts", by decide, by decide⟩
  · exact ⟨"n_drops", by decide, by decide⟩

theorem shownMetrics_nodup (c : Counters) (names : (plugins.map Handle.name).Nodup)
    (reports : ∀ p ∈ plugins, ∃ metrics, (h.metrics p).1 = .ok metrics ∧
      (metrics.map Metric.name).Nodup) (separate : SeparateNames plugins) :
    ((shownMetrics c h plugins).map Prod.fst).Nodup := by
  have shown : ∀ p ∈ plugins, ∀ name ∈ (p.shownMetrics h).map Prod.fst,
      ∃ m, name = shownName p.name m := by
    intro p registered name inside
    obtain ⟨metrics, answer, _⟩ := reports p registered
    exact p.exists_shownName answer inside
  rw [shownMetrics, List.map_append, List.map_flatMap, List.nodup_append]
  refine ⟨by simp, List.nodup_flatMap.mpr ⟨?_, ?_⟩, ?_⟩
  · intro p registered
    obtain ⟨metrics, answer, distinct⟩ := reports p registered
    exact p.shownMetrics_nodup answer distinct
  · have apart := List.pairwise_map.mp names
    refine apart.imp_of_mem ?_
    intro p q first second ne name own other
    obtain ⟨m, rfl⟩ := shown p first name own
    obtain ⟨m', same⟩ := shown q second _ other
    obtain equal | ⟨rest, equal⟩ | ⟨rest, equal⟩ := eq_or_continues same
    · exact ne equal
    · exact separate.dotted q second p first rest equal
    · exact separate.dotted p first q second rest equal
  · -- Neither "engine" nor the name of a counter has a dot.
    rintro name counter _ reported rfl
    obtain ⟨p, registered, own⟩ := List.mem_flatMap.mp reported
    obtain ⟨m, same⟩ := shown p registered name own
    obtain ⟨metric, undotted, named⟩ := exists_undotted_of_counter counter
    exact separate.engine p registered (eq_of_undotted (by decide) undotted (named.symm.trans same))

/-- What a driver answers when both groups of metrics are on and every plugin reports. Each shown
name has one entry, where it comes first, and the value that was reported last under it. So nothing is
lost exactly if the shown names are different, as they are when the plugins have separate names and
each reports different ones. Earlier snapshots are not looked at. -/
theorem Process.Run.metrics_complete {proc : Process π ι} {log : List (Exchange π)} {i : Nat}
    {d : Driver ι} (run : Process.Run proc log) (there : proc.driver? i = some d)
    (both : d.collector.flags = ⟨true, true⟩)
    (reports : ∀ p ∈ registeredBy i log, ∃ metrics, (proc.host.metrics p).1 = .ok metrics ∧
      (metrics.map Metric.name).Nodup) :
    (d.metrics proc.host).1 = .ok (Snapshot.inWords (Snapshot.merge
      (shownMetrics d.engine.counters proc.host (registeredBy i log)))) ∧
    ((d.metrics proc.host).1 = .ok (Snapshot.inWords
        (shownMetrics d.engine.counters proc.host (registeredBy i log))) ↔
      ((shownMetrics d.engine.counters proc.host (registeredBy i log)).map Prod.fst).Nodup) ∧
    (SeparateNames (registeredBy i log) →
      ((shownMetrics d.engine.counters proc.host (registeredBy i log)).map Prod.fst).Nodup) ∧
    ∀ snapshot, ({ d with collector := { d.collector with snapshot } }.metrics proc.host).1 =
      (d.metrics proc.host).1 := by
  have answer : (d.metrics proc.host).1 = .ok (Snapshot.inWords (Snapshot.merge
      (shownMetrics d.engine.counters proc.host (registeredBy i log)))) := by
    have houses := run.houses there
    have known : ∀ p ∈ registeredBy i log, ∃ metrics, (proc.host.metrics p).1 = .ok metrics := by
      intro p registered
      obtain ⟨metrics, answer, _⟩ := reports p registered
      exact ⟨metrics, answer⟩
    rw [← run.plugins_eq there] at houses known ⊢
    obtain ⟨done, taken⟩ := Collector.collect_eq both houses known
    unfold Driver.metrics
    generalize d.collector.collect d.engine proc.host = collected at done taken ⊢
    obtain ⟨_, collector, h'⟩ := collected
    cases done
    change Except.ok collector.words = _
    rw [Collector.words, taken]
    rfl
  refine ⟨answer, ?_, ?_, fun _ => rfl⟩
  · rw [answer, Except.ok.injEq, Snapshot.merge_eq_iff]
  · intro separate
    exact shownMetrics_nodup _ (run.names_distinct there) reports separate

end Collecting

namespace Process

/-- A driver that collects both groups of metrics, with plugins of these names and metrics. -/
def reporting (plugins : List (String × List Metric)) :
    Process Scripted Scripted.Stream × List (Exchange Scripted) :=
  let fresh : Process Scripted Scripted.Stream := ⟨Host.fresh .bare, []⟩
  (fresh.create { Config.Settings.default with metrics := ⟨true, true⟩ }).play [] <|
    plugins.map fun (name, metrics) =>
      (0, .register (Scripted.descriptor ⟨name, "", "", .of [.eventParsing], none, [], []⟩ none
        ⟨none, none, .labelled "", [], [], metrics⟩) "")

theorem reporting_run (plugins : List (String × List Metric)) :
    Run (reporting plugins).1 (reporting plugins).2 :=
  .play (.create _ (.start .bare)) _

/-- Two plugins with one metric each, of which one is lost: both are shown as "a.b.c". -/
theorem dotted_metric_lost :
    let state := reporting [("a", [.counter "b.c" 1]), ("a.b", [.counter "c" 2])]
    Run state.1 state.2 ∧ ∃ d, state.1.driver? 0 = some d ∧ d.collector.flags = ⟨true, true⟩ ∧
      (registeredBy 0 state.2).map (fun p => (state.1.host.metrics p).1) =
        [.ok [.counter "b.c" 1], .ok [.counter "c" 2]] ∧
      (d.metrics state.1.host).1 =
        .ok [("engine.n_evts", 0), ("engine.n_timeouts", 0), ("engine.n_drops", 0), ("a.b.c", 2)] ∧
      (d.metrics state.1.host).1 ≠ .ok (Snapshot.inWords
        (shownMetrics d.engine.counters state.1.host (registeredBy 0 state.2))) := by
  intro state
  refine ⟨reporting_run _, (state.1.driver? 0).get (by decide +kernel), by simp, ?_⟩
  decide +kernel

/-- Plugins with separate names, of which one reports a metric with a dot. -/
theorem separate_metrics_complete :
    let state := reporting [("a", [.counter "b.c" 1, .counter "d" 2]), ("b", [.counter "c" 3])]
    ∃ d, state.1.driver? 0 = some d ∧ d.collector.flags = ⟨true, true⟩ ∧
      (∀ p ∈ registeredBy 0 state.2, ∃ metrics, (state.1.host.metrics p).1 = .ok metrics ∧
        (metrics.map Metric.name).Nodup) ∧
      SeparateNames (registeredBy 0 state.2) ∧
      (d.metrics state.1.host).1 = .ok [("engine.n_evts", 0), ("engine.n_timeouts", 0),
        ("engine.n_drops", 0), ("a.b.c", 1), ("a.d", 2), ("b.c", 3)] := by
  intro state
  have registered : registeredBy 0 state.2 =
      [⟨0, ⟨"a", "", "", .of [.eventParsing], none, [], []⟩⟩,
        ⟨1, ⟨"b", "", "", .of [.eventParsing], none, [], []⟩⟩] := by decide +kernel
  have there : state.1.driver? 0 = some ((state.1.driver? 0).get (by decide +kernel)) := by simp
  have both : ((state.1.driver? 0).get (by decide +kernel)).collector.flags = ⟨true, true⟩ := by
    decide +kernel
  have reports : ∀ p ∈ registeredBy 0 state.2, ∃ metrics, (state.1.host.metrics p).1 = .ok metrics ∧
      (metrics.map Metric.name).Nodup := by
    simp only [registered, List.forall_mem_cons]
    refine ⟨⟨[.counter "b.c" 1, .counter "d" 2], by decide +kernel, by decide⟩,
      ⟨[.counter "c" 3], by decide +kernel, by decide⟩, by simp⟩
  have separate : SeparateNames (registeredBy 0 state.2) := by
    rw [registered]
    exact separateNames_of_undotted (by decide) (by decide)
  have complete := (reporting_run _).metrics_complete there both reports
  refine ⟨_, there, both, reports, separate, ?_⟩
  rw [complete.2.1.mpr (complete.2.2.1 separate), Except.ok.injEq]
  decide +kernel

end Process

end EventProbe
