import EventProbe.Plugins.Scripted
import EventProbe.Proofs.DriverSetUp
import EventProbe.Proofs.FieldNameGrammar
import EventProbe.Proofs.FieldRequests
import EventProbe.Proofs.ReachedPlugins

/-! What the plugin `tally` counts. In every state of a run its table has the events that have reached it,
by their sources; its metrics and its fields tell of this table, whatever other plugins there are. -/
namespace EventProbe

namespace Tally
variable {events : List Event} {names : List String} {name : String}

/-- The sources of events, each once, in the order of the first event of each. -/
def sources (events : List Event) : List String :=
  (events.map Event.source).eraseDups

def eventsOf (events : List Event) (source : String) : Nat :=
  events.countP (·.source == source)

def counted (events : List Event) : Tally :=
  ⟨(sources events).map fun s => (s, eventsOf events s), events.length⟩

theorem mem_sources : name ∈ sources events ↔ ∃ e ∈ events, e.source = name := by
  rw [sources, List.mem_eraseDups, List.mem_map]

theorem eventsOf_eq_zero (absent : name ∉ sources events) : eventsOf events name = 0 := by
  rw [eventsOf, List.countP_eq_zero]
  intro e came same
  exact absent (mem_sources.mpr ⟨e, came, eq_of_beq same⟩)

theorem eventsOf_concat (events : List Event) (e : Event) (name : String) :
    eventsOf (events ++ [e]) name = eventsOf events name + if name = e.source then 1 else 0 := by
  rw [eventsOf, List.countP_append, List.countP_singleton]
  by_cases same : name = e.source
  · simp [same, eventsOf]
  · simp [same, Ne.symm same, eventsOf]

/-- To count one more of a name adds to its entry, or makes one. -/
theorem count_map {f : String → Nat} (distinct : names.Nodup) (absent : name ∉ names → f name = 0) :
    count (names.map fun s => (s, f s)) name =
      (if name ∈ names then names else names ++ [name]).map fun s =>
        (s, f s + if s = name then 1 else 0) := by
  induction names with
  | nil => simp [count, absent]
  | cons first rest ih =>
    obtain ⟨new, distinct⟩ := List.nodup_cons.mp distinct
    rw [List.map_cons, count]
    by_cases here : first = name
    · subst here
      have others : ∀ s ∈ rest, (s, f s) = (s, f s + if s = first then 1 else 0) := by
        intro s later
        have ne : s ≠ first := fun same => new (same ▸ later)
        rw [if_neg ne, Nat.add_zero]
      simp [List.map_congr_left others]
    · have ih := ih distinct fun other => absent fun known =>
        (List.mem_cons.mp known).elim (fun same => here same.symm) other
      rw [if_neg here, ih]
      by_cases known : name ∈ rest
      · simp [known, here]
      · simp [known, here, Ne.symm here]

theorem lookup_map {f : String → Nat} (names : List String) (name : String) :
    (names.map fun s => (s, f s)).lookup name = if name ∈ names then some (f name) else none := by
  induction names with
  | nil => rfl
  | cons first rest ih =>
    rw [List.map_cons, List.lookup_cons, ih]
    by_cases here : name = first
    · simp [here]
    · simp [here, beq_eq_false_iff_ne.mpr here]

theorem sum_count (entries : List (String × Nat)) (name : String) :
    ((count entries name).map Prod.snd).sum = (entries.map Prod.snd).sum + 1 := by
  induction entries with
  | nil => rfl
  | cons entry rest ih =>
    obtain ⟨first, n⟩ := entry
    unfold count
    split
    · simp only [List.map_cons, List.sum_cons]
      omega
    · simp only [List.map_cons, List.sum_cons, ih]
      omega

theorem counted_concat (events : List Event) (e : Event) : counted (events ++ [e]) =
    ⟨count (counted events).perSource e.source, (counted events).parsed + 1⟩ := by
  have sources : sources (events ++ [e]) =
      if e.source ∈ sources events then sources events else sources events ++ [e.source] := by
    simp only [Tally.sources, List.map_append, List.map_singleton, eraseDups_concat, List.mem_eraseDups]
  have distinct : (Tally.sources events).Nodup := Snapshot.nodup_eraseDups _
  simp only [counted, sources, eventsOf_concat, List.length_append, List.length_singleton,
    count_map distinct eventsOf_eq_zero]

/-- All events are of their sources. -/
theorem sum_eventsOf (events : List Event) :
    ((sources events).map (eventsOf events)).sum = events.length := by
  have entries : ∀ events, ((counted events).perSource.map Prod.snd).sum = events.length := by
    intro events
    induction events using List.reverseRecOn with
    | nil => rfl
    | append_singleton events e ih => rw [counted_concat, sum_count, ih, List.length_append]; rfl
  rw [← entries events, counted, List.map_map]
  rfl

theorem seen_counted (events : List Event) (name : String) :
    (counted events).seen name = eventsOf events name := by
  rw [seen, counted, lookup_map]
  by_cases known : name ∈ sources events
  · simp [known]
  · simp [known, eventsOf_eq_zero known]

abbrev bundled (t : Tally) : Bundled ⊕ ρ :=
  .inl (.inr (.inr (.inr (.inr t))))

theorem after_eq [Plugin ρ κ] (events : List Event) :
    Plugin.after (bundled ⟨[], 0⟩ : Bundled ⊕ ρ) events = (counted events).bundled := by
  induction events using List.reverseRecOn with
  | nil => rfl
  | append_singleton events e ih =>
    rw [Plugin.after_append, ih, counted_concat]
    rfl

end Tally

/-! ## What a driver shows -/

/-- The fields of the plugin show, at the current event, how many of these events are of its source, and
of any source that can be written. -/
structure Driver.ShowsCounts [Plugin π ι] (d : Driver ι) (h : Host π) (e : Event)
    (events : List Event) : Prop where
  seen : d.Shows h ⟨d.id, some e.num⟩ "tally.seen" (toString (Tally.eventsOf events e.source)) ⟨0, 0⟩
  source : ∀ s : String, FieldName.Argument s.toList →
    d.Shows h ⟨d.id, some e.num⟩ s!"tally.source[{s}]" (toString (Tally.eventsOf events s)) ⟨0, 0⟩

/-- The metrics of the plugin tell how many events there are, and of how many sources. -/
structure Driver.MeasuresCounts [Plugin π ι] (d : Driver ι) (h : Host π) (events : List Event)
    (words : List (String × Nat)) : Prop where
  measured : (d.metrics h).1 = .ok words
  parsed : words.lookup "tally.events_parsed" = some events.length
  sources : (Tally.sources events).length < halfWordLimit →
    words.lookup "tally.sources" = some (Tally.sources events).length

section Drivers
variable [Plugin ρ κ] {d : Driver (BundledSource ⊕ κ)} {h : Host (Bundled ⊕ ρ)} {t : Handle}
  {added before after : List Handle} {e : Event} {events : List Event}

/-- The field is read as it is written, with a text as its argument even if that is a number. -/
theorem Tally.parse_source {s : String} (argument : FieldName.Argument s.toList) :
    FieldName.parse s!"tally.source[{s}]" = .ok ⟨"tally.source", some s⟩ := by
  have bare : FieldName.parse "tally.source" = .ok ⟨"tally.source", none⟩ := rfl
  have path : FieldName.Path "tally.source".toList :=
    (FieldName.parse_eq_ok_iff.mp bare).wellFormed.path
  have spells := FieldName.Spells.bracketed path argument
  have written : (s!"tally.source[{s}]").toList =
      "tally.source".toList ++ '[' :: (s.toList ++ [']']) := by
    simp only [String.toList_append]
    rfl
  rw [String.ofList_toList, String.ofList_toList, ← written] at spells
  exact FieldName.parse_eq_ok_iff.mpr spells

/-- What a field of the plugin shows: the events of the source that its key names, or else of the source
of the current event. -/
theorem Driver.shows_count {name source : String} {field : FieldName} {id : Nat} {info : FieldInfo}
    (manifest : t.manifest = Tally.descriptor.manifest) (offers : d.Offers added)
    (split : contributors added = before ++ t :: after) (refused : ∀ q ∈ before, ¬ q.Accepts field)
    (keeps : h.Keeps t (Tally.counted events).bundled) (current : d.engine.current = some e)
    (parsed : FieldName.parse name = .ok field) (foreign : GenericField.ofPath field.path = none)
    (found : Tally.descriptor.manifest.findField field.path = some (id, info))
    (accepts : info.argument.accepts field = true) (unindexed : info.argument.index = false)
    (asked : (if info.argument.key then field.argument else none).getD e.source = source) :
    d.Shows h ⟨d.id, some e.num⟩ name (toString (Tally.eventsOf events source)) ⟨0, 0⟩ := by
  rw [← manifest] at found
  have resolved := offers.resolve_first split refused parsed foreign found accepts
  have reads : t.manifest.reads e.source = true := by rw [manifest]; rfl
  have extracts : ∀ offsets, (Plugin.extract ((Tally.counted events).bundled : Bundled ⊕ ρ)
      (Request.make id info field e offsets)).1 =
        .ok [.plain (.number (Tally.eventsOf events source))] := by
    intro offsets
    rw [← Tally.seen_counted, ← asked, ← Request.make_argKey_of_no_index unindexed id field e offsets]
    rfl
  exact Driver.shows_extracted resolved current reads keeps (Plugin.still_bundled _) extracts

theorem Driver.shows_counts (manifest : t.manifest = Tally.descriptor.manifest) (offers : d.Offers added)
    (split : contributors added = before ++ t :: after)
    (unclaimed : ∀ q ∈ before, ∀ field : FieldName, q.Accepts field →
      field.path ≠ "tally.seen" ∧ field.path ≠ "tally.source")
    (keeps : h.Keeps t (Tally.counted events).bundled) (current : d.engine.current = some e) :
    d.ShowsCounts h e events where
  seen := Driver.shows_count manifest offers split
    (fun q known accepts => (unclaimed q known _ accepts).1 rfl) keeps current rfl rfl rfl rfl rfl rfl
  source _ written := Driver.shows_count manifest offers split
    (fun q known accepts => (unclaimed q known _ accepts).2 rfl) keeps current
    (Tally.parse_source written) rfl rfl rfl rfl rfl

theorem Driver.measures_counts (manifest : t.manifest = Tally.descriptor.manifest)
    (keeps : h.Keeps t (Tally.counted events).bundled)
    (houses : h.Houses d.engine.registry.plugins)
    (names : (d.engine.registry.plugins.map Handle.name).Nodup)
    (known : t ∈ d.engine.registry.plugins) (flags : d.collector.flags.plugins = true)
    (reports : ∀ q ∈ d.engine.registry.plugins, ∃ metrics, (h.metrics q).1 = .ok metrics) :
    ∃ words, d.MeasuresCounts h events words := by
  have name : t.name = "tally" := by rw [Handle.name, manifest]; rfl
  have answer : (h.metrics t).1 = .ok [.counter "events_parsed" (Tally.counted events).parsed,
      .gauge "sources" (.u32 ((Tally.counted events).perSource.length % halfWordLimit))] := keeps.metrics
  obtain ⟨words, collected, measured⟩ := Driver.metrics_shows flags houses names reports known answer
    (by simp [Metric.counter, Metric.gauge]) (by rw [name]; decide)
    (by simp [Metric.counter, Metric.gauge])
  rw [name] at measured
  simp only [List.mem_cons, List.not_mem_nil, or_false, forall_eq_or_imp, forall_eq] at measured
  refine ⟨words, collected, measured.1, fun few => measured.2.trans ?_⟩
  simp only [Metric.gauge, MetricValue.asWord, Tally.counted, List.length_map, Nat.mod_eq_of_lt few]

end Drivers

/-! ## Runs -/

namespace Process
variable [Plugin ρ κ] {p : Process (Bundled ⊕ ρ) (BundledSource ⊕ κ)} {d : Driver (BundledSource ⊕ κ)}
  {newer older : List (Stage (Bundled ⊕ ρ) (BundledSource ⊕ κ))}
  {registering : Stage (Bundled ⊕ ρ) (BundledSource ⊕ κ)} {i : Nat} {t : Handle} {config : String}
  {events : List Event}

/-- In a run the plugin has counted the events that all plugins before it accepted, and nothing else. -/
theorem Trail.keeps_counted (trail : Trail p (newer ++ registering :: older))
    (there : p.driver? i = some d) (manifest : t.manifest = Tally.descriptor.manifest)
    (registers : registering.exchange =
      ⟨i, .register (Bundled.tally.map .inl) config, .registered (.ok t), none⟩) :
    p.host.Keeps t
      (Tally.counted (passedBy i (registeredBy i (older.map Stage.exchange)) newer)).bundled := by
  have made : (Bundled.tally.map .inl : Descriptor (Bundled ⊕ ρ)).init config =
      .ok (Tally.bundled ⟨[], 0⟩) := rfl
  have still : ∀ events, Plugin.Still (Plugin.after (Tally.bundled ⟨[], 0⟩ : Bundled ⊕ ρ) events) := by
    intro events
    rw [Tally.after_eq]
    exact Plugin.still_bundled _
  have keeps := trail.keeps_reached there registers made still (by rw [manifest]; rfl)
  have reads : ∀ e ∈ passedBy i (registeredBy i (older.map Stage.exchange)) newer,
      t.parses e.source = true := by
    intro e _
    rw [Handle.parses, manifest]
    rfl
  rwa [List.filter_eq_self.mpr reads, Tally.after_eq] at keeps

/-- A driver that has registered `tally` shows with its metrics and its fields what has reached it: the
events that were taken since then and that the plugins registered before accepted. If these parse no
events, and no source was opened before, then without panics all events of the driver are among them. -/
theorem Trail.tally_counts (trail : Trail p (newer ++ registering :: older))
    (there : p.driver? i = some d) (registers : registering.exchange =
      ⟨i, .register (Bundled.tally.map .inl) config, .registered (.ok t), none⟩)
    (passed : passedBy i (registeredBy i (older.map Stage.exchange)) newer = events) :
    (d.collector.flags.plugins = true →
      (∀ q ∈ d.engine.registry.plugins, ∃ metrics, (p.host.metrics q).1 = .ok metrics) →
      ∃ words, d.MeasuresCounts p.host events words) ∧
    ((Tally.sources events).map (Tally.eventsOf events)).sum = events.length ∧
    (∀ before after, contributors (addedBy i ((newer ++ registering :: older).map Stage.exchange)) =
        before ++ t :: after →
      (∀ q ∈ before, ∀ field : FieldName, q.Accepts field →
        field.path ≠ "tally.seen" ∧ field.path ≠ "tally.source") →
      ∀ e, d.engine.current = some e → d.ShowsCounts p.host e events) ∧
    ((∀ q ∈ registeredBy i (older.map Stage.exchange), q.manifest.can .eventParsing = false) →
      opensBy i (older.map Stage.exchange) = [] →
      (∀ s ∈ newer ++ registering :: older, s.place = i → s.exchange.reply.panic? = none) →
      events.length = d.engine.counters.events + d.engine.counters.drops) := by
  subst passed
  have run := trail.run
  have logged : ⟨i, .register (Bundled.tally.map .inl) config, .registered (.ok t), none⟩ ∈
      (newer ++ registering :: older).map Stage.exchange := by
    rw [← registers]
    exact List.mem_map_of_mem (by simp)
  have manifest : t.manifest = Tally.descriptor.manifest := (run.registered_by logged).1
  have keeps := trail.keeps_counted there manifest registers
  refine ⟨?_, Tally.sum_eventsOf _, ?_, ?_⟩
  · intro flags reports
    have houses := run.houses there
    have names := run.names_distinct there
    have known : t ∈ registeredBy i ((newer ++ registering :: older).map Stage.exchange) :=
      RegisteredAs.registered ⟨_, config, rfl, logged⟩
    rw [← run.plugins_eq there] at houses names known
    exact Driver.measures_counts manifest keeps houses names known flags reports
  · intro before after split unclaimed e current
    exact Driver.shows_counts manifest ((run.stocked there).offers (run.coherent there)) split unclaimed
      keeps current
  · intro first unopened calm
    obtain ⟨q, earlier, _⟩ := trail.stage
    obtain ⟨place, driver, host, call⟩ := registering
    obtain ⟨rfl, rfl, -, -⟩ := Exchange.mk.inj registers
    rw [trail.counts_arrivals there calm, passedBy_of_silent first, List.length_map, arrivalsBy_append,
      arrivalsBy_own, earlier.arrivalsBy_unopened unopened, Stage.arrival_of_rest rfl]
    rfl

def mixedFile : List UInt8 :=
  ["\x7b\"magic\":\"inspect-capture\",\"version\":1,\"created_at\":\"2024-01-01T00:00:00Z\"\x7d\n",
    "\x7b\"ts\":1,\"source\":\"7\",\"event_type\":3,\"data\":\"b\"\x7d\n",
    "\x7b\"ts\":2,\"source\":\"s\",\"event_type\":3,\"data\":\"a\"\x7d\n"].flatMap Utf8.encode

/-- A plugin that refuses one event. -/
def sieve : Descriptor (Bundled ⊕ Scripted) :=
  (Scripted.descriptor (Scripted.plain "sieve" .eventParsing none) none
    { (⟨none, none, .labelled "", [], [], []⟩ : Scripted) with
      parsing := [([98], .fail "not this one")] }).map .inr

/-- A driver that has registered these plugins. -/
def sifting (plugins : List (Descriptor (Bundled ⊕ Scripted))) :
    Process (Bundled ⊕ Scripted) (BundledSource ⊕ Scripted.Stream) ×
      List (Stage (Bundled ⊕ Scripted) (BundledSource ⊕ Scripted.Stream)) :=
  oneDriver.follow [] (plugins.map fun plugin => (0, .register plugin ""))

/-- It registers `tally` too, and other plugins after it, and reads the file. -/
def sifted (before after : List (Descriptor (Bundled ⊕ Scripted))) :
    Process (Bundled ⊕ Scripted) (BundledSource ⊕ Scripted.Stream) ×
      List (Stage (Bundled ⊕ Scripted) (BundledSource ⊕ Scripted.Stream)) :=
  (sifting before).1.follow (sifting before).2 ((0, .register (Bundled.tally.map .inl) "") ::
    (after.map fun plugin => (0, .register plugin "")) ++
    [(0, .addExtractors ⟨before.length, Tally.descriptor.manifest⟩ "s"),
      (0, .openCapture (.ok mixedFile)), (0, .next), (0, .next)])

/-- The registration of `tally` among its calls. -/
theorem sifted_registers (before after : List (Descriptor (Bundled ⊕ Scripted))) (k : Nat)
    (alive : ((sifting before).1.driver? 0).isSome = true)
    (slots : (sifting before).1.host.slots.length = before.length)
    (free : "tally" ∉ (registeredBy 0 ((sifting before).2.map Stage.exchange)).map Handle.name)
    (grown : (sifted before after).2.length = k + ((sifting before).2.length + 1)) :
    ∃ registering, registering.exchange = ⟨0, .register (Bundled.tally.map .inl) "",
        .registered (.ok ⟨before.length, Tally.descriptor.manifest⟩), none⟩ ∧
      (sifted before after).2 = (sifted before after).2.take k ++ registering :: (sifting before).2 ∧
      Trail (sifted before after).1
        ((sifted before after).2.take k ++ registering :: (sifting before).2) := by
  obtain ⟨d, there⟩ := Option.isSome_iff_exists.mp alive
  have trail : Trail (sifting before).1 (sifting before).2 :=
    Trail.follow (.create .default (.start .bare)) _
  obtain ⟨registering, registers, split⟩ :=
    trail.follow_register there rfl free rfl (by rw [slots]) _ grown
  have trail' : Trail (sifted before after).1 (sifted before after).2 := trail.follow _
  have split : (sifted before after).2 =
      (sifted before after).2.take k ++ registering :: (sifting before).2 := split
  refine ⟨registering, registers, split, ?_⟩
  rwa [← split]

/-- Behind the other plugin, `tally` counts the one event that it accepts; before it, `tally` counts the
event that is refused as well. -/
theorem sifted_tally_counts :
    (∃ d, (sifted [sieve] []).1.driver? 0 = some d ∧
      d.Shows (sifted [sieve] []).1.host ⟨1, some 1⟩ "tally.seen" "1" ⟨0, 0⟩ ∧
      d.Shows (sifted [sieve] []).1.host ⟨1, some 1⟩ "tally.source[7]" "0" ⟨0, 0⟩) ∧
    ∃ d words, (sifted [] [sieve]).1.driver? 0 = some d ∧
      d.MeasuresCounts (sifted [] [sieve]).1.host (passedBy 0 [] ((sifted [] [sieve]).2.take 5)) words ∧
      words.lookup "tally.events_parsed" = some 2 ∧
      d.engine.counters.events + d.engine.counters.drops = 2 := by
  constructor
  · obtain ⟨d, there, id, ⟨e, current, num, source⟩, added, seen, other⟩ :
        ∃ d ∈ (sifted [sieve] []).1.driver? 0, d.id = 1 ∧
          (∃ e ∈ d.engine.current, e.num = 1 ∧ e.source = "s") ∧
          contributors (addedBy 0 ((sifted [sieve] []).2.map Stage.exchange)) =
            [⟨1, Tally.descriptor.manifest⟩] ∧
          Tally.eventsOf (passedBy 0 (registeredBy 0 ((sifting [sieve]).2.map Stage.exchange))
            ((sifted [sieve] []).2.take 4)) "s" = 1 ∧
          Tally.eventsOf (passedBy 0 (registeredBy 0 ((sifting [sieve]).2.map Stage.exchange))
            ((sifted [sieve] []).2.take 4)) "7" = 0 := by decide +kernel
    obtain ⟨registering, registers, split, trail⟩ := sifted_registers [sieve] [] 4 (by decide +kernel)
      (by decide +kernel) (by decide +kernel) (by decide +kernel)
    rw [split] at added
    have shows := (trail.tally_counts there registers rfl).2.2.1 [] [] added (by simp) e current
    have written : FieldName.Argument "7".toList := ⟨by simp, by simp⟩
    have first := shows.seen
    have second := shows.source "7" written
    rw [source, seen] at first
    rw [other] at second
    rw [id, num] at first second
    exact ⟨d, there, first, second⟩
  · obtain ⟨d, there, flags, reports, calm, two⟩ :
        ∃ d ∈ (sifted [] [sieve]).1.driver? 0, d.collector.flags.plugins = true ∧
          (∀ q ∈ d.engine.registry.plugins,
            ((sifted [] [sieve]).1.host.metrics q).1.toOption.isSome = true) ∧
          (∀ s ∈ (sifted [] [sieve]).2, s.exchange.reply.panic?.isNone = true) ∧
          (passedBy 0 [] ((sifted [] [sieve]).2.take 5)).length = 2 := by decide +kernel
    obtain ⟨registering, registers, split, trail⟩ := sifted_registers [] [sieve] 5 (by decide +kernel)
      (by decide +kernel) (by decide +kernel) (by decide +kernel)
    have first : passedBy 0 (registeredBy 0 ((sifting []).2.map Stage.exchange))
        ((sifted [] [sieve]).2.take 5) = passedBy 0 [] ((sifted [] [sieve]).2.take 5) := rfl
    obtain ⟨measures, _, _, all⟩ := trail.tally_counts there registers first
    have reports : ∀ q ∈ d.engine.registry.plugins, ∃ metrics,
        ((sifted [] [sieve]).1.host.metrics q).1 = .ok metrics := by
      intro q known
      have reported := reports q known
      cases answer : ((sifted [] [sieve]).1.host.metrics q).1 with
      | ok metrics => exact ⟨metrics, rfl⟩
      | error panic =>
        rw [answer] at reported
        cases reported
    obtain ⟨words, measured⟩ := measures flags reports
    have parsed := measured.parsed
    rw [← split] at all
    have counted := all (fun q known => by cases known) rfl
      fun s noted _ => Option.isNone_iff_eq_none.mp (calm s noted)
    rw [two] at parsed counted
    exact ⟨d, words, there, measured, parsed, counted.symm⟩

end Process

end EventProbe
