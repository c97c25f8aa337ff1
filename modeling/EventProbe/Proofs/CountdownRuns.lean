import EventProbe.Plugins.Scripted
import EventProbe.Proofs.CountdownStream
import EventProbe.Proofs.DecimalFields
import EventProbe.Proofs.DriverSetUp

/-! Runs of drivers that count down. The events of a countdown, what the plugin `payload` shows of them and
the metrics follow from the configuration and the number of steps, whatever else is called in the
process. -/
namespace EventProbe

/-- What a driver does and shows after `k` steps since it opened a source of a countdown of `n` events in
batches of `m`. -/
structure Driver.CountsDown [Plugin ρ κ] (d : Driver (BundledSource ⊕ κ)) (h : Host (Bundled ⊕ ρ))
    (owner : Handle) (n m k : Nat) : Prop where
  /-- The next step delivers the next event, or tells that the stream is over. -/
  answers : (d.next h).1 =
    .ok (if k < n then (.ok, ⟨d.id, some k⟩) else (.eof, ⟨d.id, none⟩))
  delivers : d.delivery h =
    if k < n then some (Countdown.delivered owner d.engine.platform h.now n k) else none
  /-- Both fields show how many events remain after the current one. -/
  shows : ∀ j, k = j + 1 → j < n → ∀ field ∈ ["payload.remaining", "payload.word[0]"],
    d.Shows h ⟨d.id, some j⟩ field (toString (n - 1 - j)) ⟨0, (toString (n - 1 - j)).length⟩
  measures : d.collector.flags.plugins = true → ∃ words, (d.metrics h).1 = .ok words ∧
    words.lookup "countdown.next_batch_call_count" =
      some (if k ≤ n then k ⌈/⌉ m else n ⌈/⌉ m + 1) ∧
    words.lookup "countdown.events_produced" = some (min n (m * (k ⌈/⌉ m)))

/-- A driver has opened a source of a countdown before the newer calls, and shows its events with the
plugin `payload`. -/
structure Counting (i : Nat) (config : String) (c q : Handle)
    (log newer : List (Exchange (Bundled ⊕ ρ))) : Prop where
  feeding : Feeding i (Bundled.countdown.map .inl) config c q log newer
  payload : ∃ config, ⟨i, .register (Bundled.payload.map .inl) config, .registered (.ok q), none⟩ ∈ log

/-- The calls that set up a driver so. The second plugin is named as its registration names it. -/
def Countdown.setUp (i : Nat) (config params : String) (platform : Bool) (q : Handle) :
    List (Nat × DriverCall (Bundled ⊕ ρ)) :=
  [(i, .register (Bundled.countdown.map .inl) config), (i, .register (Bundled.payload.map .inl) ""),
    (i, .addExtractors q "countdown"), (i, .openPlugin "countdown" params platform)]

def Countdown.setUpLog (i : Nat) (config params : String) (platform : Bool) (c q : Handle)
    (log : List (Exchange (Bundled ⊕ ρ))) : List (Exchange (Bundled ⊕ ρ)) :=
  ⟨i, .openPlugin "countdown" params platform, .opened (.ok ()), none⟩ ::
  ⟨i, .addExtractors q "countdown", .done, none⟩ ::
  ⟨i, .register (Bundled.payload.map .inl) "", .registered (.ok q), none⟩ ::
  ⟨i, .register (Bundled.countdown.map .inl) config, .registered (.ok c), none⟩ :: log

namespace Process
variable [Plugin ρ κ] {p : Process (Bundled ⊕ ρ) (BundledSource ⊕ κ)} {d : Driver (BundledSource ⊕ κ)}
  {log newer older : List (Exchange (Bundled ⊕ ρ))} {x : Exchange (Bundled ⊕ ρ)} {i n m : Nat}
  {c q : Handle} {config params : String} {platform : Bool}

open Countdown

/-- A countdown is made as it is configured. -/
theorem init_countdown (accepted : init config = .ok ⟨n, m, 0, 0⟩) :
    (Bundled.countdown.map .inl : Descriptor (Bundled ⊕ ρ)).init config =
      .ok (.inl (.inl ⟨n, m, 0, 0⟩)) := by
  simp only [Descriptor.map, Bundled.countdown, Countdown.descriptor, accepted, Outcome.map]

/-- What a driver has when it opens a source of a countdown. -/
theorem counts_start (g : Engine (BundledSource ⊕ κ)) {h : Host (Bundled ⊕ ρ)}
    {state : BundledSource ⊕ κ} (detected : Option Platform)
    (keeps : h.Keeps c (.inl (.inl ⟨n, m, 0, 0⟩)))
    (opened : (Plugin.openSource (.inl (.inl ⟨n, m, 0, 0⟩) : Bundled ⊕ ρ) params).1 = .ok state) :
    (g.start (.plugin ⟨c, "countdown", state, []⟩) detected).Counts c n m 0 h := by
  cases opened
  have unasked : 0 ⌈/⌉ m = 0 := zero_ceilDiv m
  have nothing : producedBy n m 0 = 0 := by rw [producedBy, unasked, Nat.mul_zero, Nat.min_zero]
  refine ⟨?_, .inr ⟨.inl rfl, rfl⟩, [], ?_, .inl ⟨Nat.zero_le n, rfl, rfl, ?_⟩⟩
  · rw [since, nothing, asksBy, if_pos (Nat.zero_le n), unasked]
    exact keeps
  · rw [feed, nothing]
    rfl
  · rw [nothing]
    rfl

/-- Both fields of the current event of a countdown show its number. -/
theorem Run.shows_remaining {j now : Nat} {field : String} (run : Run p log)
    (there : p.driver? i = some d)
    (logged : ⟨i, .register (Bundled.payload.map .inl) config, .registered (.ok q), none⟩ ∈ log)
    (known : q ∈ addedBy i log) (sole : ∀ r ∈ addedBy i log, r = q)
    (spared : ∀ source, d.engine.source = some source → source.Spares q.slot) (fits : n < wordLimit)
    (inside : j < n) (current : d.engine.current = some (delivered c d.engine.platform now n j))
    (named : field ∈ ["payload.remaining", "payload.word[0]"]) :
    d.Shows p.host ⟨d.id, some j⟩ field (toString (n - 1 - j)) ⟨0, (toString (n - 1 - j)).length⟩ := by
  have manifest := (run.registered_by logged).1
  have made : RegisteredAs i log q (.inl (.inr (.inl {})) : Bundled ⊕ ρ) := ⟨_, config, rfl, logged⟩
  have keeps := run.rests there made (Plugin.still_bundled _) (by rw [manifest]; rfl) spared
  have offers := (run.stocked there).offers (run.coherent there)
  have small : n - 1 - j < wordLimit := by omega
  have reads : q.manifest.reads "countdown" = true := by rw [manifest]; rfl
  simp only [List.mem_cons, List.not_mem_nil, or_false] at named
  obtain rfl | rfl := named
  · have resolved : (d.extractors.resolve "payload.remaining").1 =
        .ok (.plugin ⟨"payload.remaining", none⟩ q 3 Payload.fields[3]) :=
      offers.resolve_sole known sole rfl rfl (by rw [manifest]; rfl) rfl
    exact Driver.shows_extracted resolved current reads keeps (Plugin.still_bundled _) fun offsets =>
      Payload.extract_remaining small rfl rfl
  · have resolved : (d.extractors.resolve "payload.word[0]").1 =
        .ok (.plugin ⟨"payload.word", some "0"⟩ q 4 Payload.fields[4]) :=
      offers.resolve_sole known sole rfl rfl (by rw [manifest]; rfl) rfl
    exact Driver.shows_extracted resolved current reads keeps (Plugin.still_bundled _) fun offsets =>
      Payload.extract_word small rfl rfl rfl

/-- The metrics of a countdown, if no other plugins than these two are registered. -/
theorem Run.measures_countdown {s : Countdown} (run : Run p log) (there : p.driver? i = some d)
    (flags : d.collector.flags.plugins = true) (keeps : p.host.Keeps c (.inl (.inl s)))
    (keeps' : p.host.Keeps q (.inl (.inr (.inl {})))) (known : c ∈ registeredBy i log)
    (only : ∀ r ∈ registeredBy i log, r = c ∨ r = q) (name : c.name = "countdown") :
    ∃ words, (d.metrics p.host).1 = .ok words ∧
      words.lookup "countdown.next_batch_call_count" = some s.batches ∧
      words.lookup "countdown.events_produced" = some s.produced := by
  have houses := run.houses there
  have names := run.names_distinct there
  rw [← run.plugins_eq there] at houses names known only
  have answer : (p.host.metrics c).1 = .ok [.counter "next_batch_call_count" s.batches,
      .counter "events_produced" s.produced] := keeps.metrics
  have reports : ∀ r ∈ d.engine.registry.plugins, ∃ metrics, (p.host.metrics r).1 = .ok metrics := by
    intro r known
    obtain rfl | rfl := only r known
    · exact ⟨_, answer⟩
    · exact ⟨_, keeps'.metrics⟩
  obtain ⟨words, collected, measured⟩ := Driver.metrics_shows flags houses names reports known answer
    (by simp [Metric.counter]) (by rw [name]; decide) (by simp [Metric.counter])
  rw [name] at measured
  exact ⟨words, collected, measured (.counter "next_batch_call_count" s.batches) (by simp),
    measured (.counter "events_produced" s.produced) (by simp)⟩

theorem Run.counting_shows (run : Run p log) (there : p.driver? i = some d)
    (accepted : init config = .ok ⟨n, m, 0, 0⟩) (counting : Counting i config c q log newer) :
    d.CountsDown p.host c n m (stepsBy i newer) := by
  obtain ⟨fits, positive, _⟩ := init_eq_ok accepted
  obtain ⟨feeding, config', logged'⟩ := counting
  have manifest : c.manifest = Countdown.descriptor.manifest := (run.registered_by feeding.registered).1
  have manifest' : q.manifest = Payload.descriptor.manifest := (run.registered_by logged').1
  have made : RegisteredAs i log c (.inl (.inl ⟨n, m, 0, 0⟩)) :=
    ⟨_, config, init_countdown accepted, feeding.registered⟩
  have made' : RegisteredAs i log q (.inl (.inr (.inl {}))) := ⟨_, config', rfl, logged'⟩
  have quiet : ∀ r ∈ registeredBy i log, r.manifest.can .eventParsing = false := by
    intro r known
    obtain rfl | rfl := feeding.only r known
    · rw [manifest]
      rfl
    · rw [manifest']
      rfl
  have apart : c.slot ≠ q.slot := by
    intro same
    have one := (run.houses there).eq_of_slot made.registered made'.registered same
    rw [one, manifest'] at manifest
    exact absurd (congrArg Manifest.name manifest) (by decide)
  have persists : Engine.Persists (fun k g (h : Host (Bundled ⊕ ρ)) => Engine.Counts c n m k g h) c :=
    { kept := fun k g h registry h' leaves counts => counts.kept registry leaves
      next := fun k g h quiet counts => (counts.next positive quiet).counts }
  obtain ⟨capturing, counts⟩ := run.feeds there feeding (init_countdown accepted)
    (Plugin.still_bundled _) quiet rfl persists
    fun g h params state detected keeps opened => counts_start g detected keeps opened
  have spared : ∀ source, d.engine.source = some source → source.Spares q.slot := by
    obtain ⟨pending, opened, _⟩ := counts.opened
    intro source opened'
    cases opened.symm.trans opened'
    exact apart
  rw [← run.plugins_eq there] at quiet
  have next := counts.next positive quiet
  constructor
  · rw [Driver.next_of_capturing capturing, next.status, next.delivery]
    unfold status due
    split <;> rfl
  · simp only [Driver.delivery, capturing, next.delivery, due]
  · rintro j same inside field named
    obtain ⟨j', now, same', inside', current⟩ | ⟨ended, _⟩ := counts.current
    · obtain rfl : j = j' := by omega
      exact run.shows_remaining there logged' feeding.added feeding.sole spared fits inside current named
    · omega
  · intro flags
    have keeps' := run.rests there made' (Plugin.still_bundled _) (by rw [manifest']; rfl) spared
    have name : c.name = "countdown" := by rw [Handle.name, manifest]; rfl
    exact run.measures_countdown there flags counts.keeps keeps' made.registered feeding.only name

theorem counting_setUpLog (unlogged : ∀ x ∈ log, x.driver ≠ i)
    (reader : q.manifest = Payload.descriptor.manifest) :
    Counting i config c q (setUpLog i config params platform c q log) [] := by
  have registered : registeredBy i (setUpLog i config params platform c q log) = [c, q] := by
    simp only [setUpLog, registeredBy_own, registeredBy_eq_nil unlogged]
    rfl
  have addable : q.addable "countdown" = true := by
    rw [Handle.addable, reader]
    rfl
  have added : addedBy i (setUpLog i config params platform c q log) = [q] := by
    simp only [setUpLog, addedBy_own, addedBy_eq_nil unlogged, DriverCall.adds, addable, if_true]
    rfl
  refine ⟨⟨⟨params, platform, _, rfl, by simp⟩, ?_, ?_, ?_⟩, "", by simp [setUpLog]⟩
  · simp [registered]
  · simp [added]
  · simp [added]

/-- A driver that has done nothing yet is set up without a failure. -/
theorem Run.sets_up_countdown (run : Run p log) (there : p.driver? i = some d)
    (unlogged : ∀ x ∈ log, x.driver ≠ i) (accepted : init config = .ok ⟨n, m, 0, 0⟩)
    (owner : c = ⟨p.host.slots.length, Countdown.descriptor.manifest⟩)
    (reader : q = ⟨p.host.slots.length + 1, Payload.descriptor.manifest⟩) (params : String)
    (platform : Bool) :
    (p.play log (setUp i config params platform q)).2 = setUpLog i config params platform c q log := by
  have made := init_countdown (ρ := ρ) accepted
  have unregistered := registeredBy_eq_nil unlogged
  have name : c.name = "countdown" := by rw [owner]; rfl
  unfold setUp
  obtain ⟨p₁, d₁, run₁, there₁, grown, played⟩ :=
    run.play_register there rfl (by simp [unregistered]) made owner
  rw [played]
  rw [← grown] at reader
  have other : Payload.descriptor.manifest.name ∉ (registeredBy i (⟨i,
      .register (Bundled.countdown.map .inl) config, .registered (.ok c), none⟩ :: log)).map
        Handle.name := by
    rw [registeredBy_own, unregistered]
    simp only [Reply.registered?, Option.toList_some, List.nil_append, List.map_singleton, name]
    decide
  have made' : (Bundled.payload.map .inl : Descriptor (Bundled ⊕ ρ)).init "" =
      .ok (.inl (.inr (.inl {}))) := rfl
  obtain ⟨p₂, d₂, run₂, there₂, _, played⟩ := run₁.play_register there₁ rfl other made' reader
  rw [played]
  obtain ⟨p₃, d₃, run₃, there₃, played⟩ := run₂.play_addExtractors there₂ q "countdown"
  rw [played]
  have silent : c.manifest.can .eventParsing = false := by rw [owner]; rfl
  have generates : c.manifest.generates = some "countdown" := by rw [owner]; rfl
  refine run₃.play_openPlugin there₃ ⟨_, config, made, by simp⟩ (Plugin.still_bundled _) silent ?_ name
    generates rfl platform
  rw [opensBy_closed rfl, opensBy_closed rfl, opensBy_closed rfl, opensBy_eq_nil unlogged]

/-- Every configuration of a countdown can be written; a driver that has done nothing yet is set up with
it without a failure; and from the open on it counts down, whatever is called in between. -/
theorem Run.counts_down (fits : n < wordLimit) (positive : 0 < m) (fits' : m < wordLimit) :
    init (settings n m) = .ok ⟨n, m, 0, 0⟩ ∧ ∀ config, init config = .ok ⟨n, m, 0, 0⟩ →
      (∀ (p : Process (Bundled ⊕ ρ) (BundledSource ⊕ κ)) log i d params platform, Run p log →
        p.driver? i = some d → (∀ x ∈ log, x.driver ≠ i) → ∃ c q d',
          Run (p.play log (setUp i config params platform q)).1
            (p.play log (setUp i config params platform q)).2 ∧
          (p.play log (setUp i config params platform q)).1.driver? i = some d' ∧
          Counting i config c q (p.play log (setUp i config params platform q)).2 []) ∧
      ∀ (p : Process (Bundled ⊕ ρ) (BundledSource ⊕ κ)) log newer i d c q, Run p log →
        p.driver? i = some d → Counting i config c q log newer →
        d.CountsDown p.host c n m (stepsBy i newer) := by
  refine ⟨init_settings fits positive fits', fun config accepted => ⟨?_, ?_⟩⟩
  · intro p log i d params platform run there unlogged
    refine ⟨⟨p.host.slots.length, Countdown.descriptor.manifest⟩,
      ⟨p.host.slots.length + 1, Payload.descriptor.manifest⟩, ?_⟩
    obtain ⟨d', there'⟩ := play_driver ⟨d, there⟩ (setUp i config params platform _)
    refine ⟨d', run.play _, there', ?_⟩
    rw [run.sets_up_countdown there unlogged accepted rfl rfl]
    exact counting_setUpLog unlogged rfl
  · intro p log newer i d c q run there counting
    exact run.counting_shows there accepted counting

theorem Run.counting_step (run : Run p log) (there : p.driver? i = some d)
    (counting : Counting i config c q log newer) : ∃ p' d' x, Run p' (x :: log) ∧
      p'.driver? i = some d' ∧ Counting i config c q (x :: log) (x :: newer) ∧
      stepsBy i (x :: newer) = stepsBy i newer + 1 := by
  obtain ⟨p', d', x, run', there', feeding, steps⟩ := run.feeding_step there counting.feeding
  obtain ⟨config', logged⟩ := counting.payload
  exact ⟨p', d', x, run', there', ⟨feeding, config', List.mem_cons_of_mem _ logged⟩, steps⟩

/-- The driver is set up to count down from five in twos. After two steps, three events remain. -/
theorem oneDriver_counts_down :
    ∃ (p : Process (Bundled ⊕ Scripted) (BundledSource ⊕ Scripted.Stream)) (d : _) (c : Handle),
      p.driver? 0 = some d ∧ d.CountsDown p.host c 5 2 2 ∧
      d.Shows p.host ⟨d.id, some 1⟩ "payload.word[0]" "3" ⟨0, 1⟩ ∧
      (d.next p.host).1 = .ok (.ok, ⟨d.id, some 2⟩) := by
  obtain ⟨accepted, all⟩ :=
    @Run.counts_down Scripted Scripted.Stream _ 5 2 (by decide) (by decide) (by decide)
  obtain ⟨sets, shows⟩ := all _ accepted
  obtain ⟨d₀, there₀⟩ : ∃ d, oneDriver.driver? 0 = some d :=
    Option.isSome_iff_exists.mp (by decide +kernel)
  obtain ⟨c, q, d₁, run₁, there₁, counting₁⟩ :=
    sets oneDriver [] 0 d₀ "" false (.create .default (.start .bare)) there₀ (by simp)
  obtain ⟨p₂, d₂, x₂, run₂, there₂, counting₂, steps₂⟩ := run₁.counting_step there₁ counting₁
  obtain ⟨p₃, d₃, x₃, run₃, there₃, counting₃, steps₃⟩ := run₂.counting_step there₂ counting₂
  have counts := shows p₃ _ _ 0 d₃ c q run₃ there₃ counting₃
  rw [steps₃, steps₂] at counts
  exact ⟨p₃, d₃, c, there₃, counts, counts.shows 1 rfl (by decide) "payload.word[0]" (by decide),
    counts.answers⟩

end Process

end EventProbe
