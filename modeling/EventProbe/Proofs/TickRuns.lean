import EventProbe.Plugins.Scripted
import EventProbe.Proofs.DecimalFields
import EventProbe.Proofs.DriverSetUp

/-! Runs of drivers that capture ticks. A source of ticks alternates between an event and an empty batch,
and ends without one; so the status of each step, the events and what is shown of them follow from the
number of ticks and the number of steps. -/
namespace EventProbe

/-! ## Ticks -/

namespace TestSource

abbrev state (n : Nat) : Bundled ⊕ ρ := .inl (.inr (.inr (.inr (.inl ⟨n⟩))))

/-- A source of `n` ticks, not exhausted yet, after `k` steps. -/
abbrev ticks (n k : Nat) : BundledSource ⊕ κ :=
  .inl (.inr (.inr (.inr (.inl ⟨(k + 1) / 2, n, k % 2 == 1⟩))))

/-- How a step ends after `k` others: there is an empty batch between two events, and none after the
last. -/
def status (n k : Nat) : Status :=
  if k + 1 < 2 * n then if k % 2 = 0 then .ok else .timeout else .eof

/-- The statuses of the steps up to the last event: an event first, and a timeout before each other. -/
def statuses : Nat → List Status
  | 0 => []
  | n + 1 => .ok :: (List.replicate n [.timeout, .ok]).flatten

def ticked (owner : Handle) (platform : Option Platform) (now j : Nat) : Event :=
  ⟨j, now, "test_source", pluginEventType, Utf8.encode s!"tick={j}", platform, some owner⟩

theorem getElem?_pairs (n k : Nat) : (List.replicate n [Status.timeout, .ok]).flatten[k]? =
    if k < 2 * n then some (if k % 2 = 0 then .timeout else .ok) else none := by
  induction n generalizing k with
  | zero => simp
  | succ n ih =>
    rw [List.replicate_succ, List.flatten_cons]
    match k with
    | 0 => simp
    | 1 =>
      have inside : 1 < 2 * (n + 1) := by omega
      simp [inside]
    | k + 2 =>
      have shorter : k + 2 < 2 * (n + 1) ↔ k < 2 * n := by omega
      simp only [List.cons_append, List.nil_append, List.getElem?_cons_succ, ih, shorter,
        Nat.add_mod_right]

/-- Every step ends as the list says, and as the end of the stream once that is over. -/
theorem status_eq (n k : Nat) : status n k = (statuses n)[k]?.getD .eof := by
  cases n with
  | zero => rfl
  | succ n =>
    cases k with
    | zero =>
      have inside : 1 < 2 * (n + 1) := by omega
      simp [status, statuses, inside]
    | succ k =>
      have inside : k + 1 + 1 < 2 * (n + 1) ↔ k < 2 * n := by omega
      have even : (k + 1) % 2 = 0 ↔ ¬ k % 2 = 0 := by omega
      rw [statuses, List.getElem?_cons_succ, getElem?_pairs, status]
      by_cases more : k < 2 * n <;> by_cases odd : k % 2 = 0 <;> simp [inside, even, more, odd]

theorem status_eq_ok_iff {n k : Nat} : status n k = .ok ↔ k + 1 < 2 * n ∧ k % 2 = 0 := by
  unfold status
  split
  · split <;> simp [*]
  · simp [*]

section Batches
variable [Plugin ρ κ] {n k : Nat}

theorem nextBatch_of_even (inside : k + 1 < 2 * n) (even : k % 2 = 0) :
    Plugin.nextBatch (state n : Bundled ⊕ ρ) (ticks n k : BundledSource ⊕ κ) =
      (.ok (.events [⟨none, Utf8.encode s!"tick={k / 2}"⟩]), state n, ticks n (k + 1)) := by
  have next : (k + 1) / 2 = k / 2 := by omega
  have next' : (k + 1 + 1) / 2 = k / 2 + 1 := by omega
  have left : ¬ n ≤ k / 2 := by omega
  have odd : (k + 1) % 2 = 1 := by omega
  simp [Plugin.nextBatch, ticks, next, next', left, even, odd]

theorem nextBatch_of_odd (inside : k + 1 < 2 * n) (odd : k % 2 = 1) :
    Plugin.nextBatch (state n : Bundled ⊕ ρ) (ticks n k : BundledSource ⊕ κ) =
      (.ok (.events []), state n, ticks n (k + 1)) := by
  have next : (k + 1 + 1) / 2 = (k + 1) / 2 := by omega
  have left : ¬ n ≤ (k + 1) / 2 := by omega
  have even : (k + 1) % 2 = 0 := by omega
  simp [Plugin.nextBatch, ticks, next, left, even, odd]

theorem nextBatch_of_past (past : 2 * n ≤ k + 1) :
    Plugin.nextBatch (state n : Bundled ⊕ ρ) (ticks n k : BundledSource ⊕ κ) =
      (.ok .endOfStream, state n, ticks n k) := by
  have spent : n ≤ (k + 1) / 2 := by omega
  simp [Plugin.nextBatch, ticks, spent]

end Batches

end TestSource

/-! ## Engines -/

section Engines
variable [Plugin ρ κ] {g : Engine (BundledSource ⊕ κ)} {h h' : Host (Bundled ⊕ ρ)} {t : Handle}
  {n k : Nat}

open TestSource

/-- An engine that took `k` steps since it opened a source of `n` ticks. -/
structure Engine.Ticks (t : Handle) (n k : Nat) (g : Engine (BundledSource ⊕ κ))
    (h : Host (Bundled ⊕ ρ)) : Prop where
  keeps : h.Keeps t (state n)
  current : k % 2 = 1 → k < 2 * n → ∃ now, g.current = some (ticked t g.platform now (k / 2))
  phase : k ≤ 2 * n - 1 ∧ g.finished = none ∧ g.nextNum = (k + 1) / 2 ∧
      g.source = some (.plugin ⟨t, "test_source", ticks n k, []⟩) ∨
    2 * n ≤ k ∧ g.finished = some .eof

namespace Engine.Ticks

theorem kept (ticks : g.Ticks t n k h) (registry : Registry) (leaves : h.Leaves t.slot h') :
    Engine.Ticks t n k { g with registry } h' where
  keeps := ticks.keeps.later (Plugin.still_bundled _) leaves
  current := ticks.current
  phase := ticks.phase

/-- What is known of a step after `k` others. -/
structure Next (t : Handle) (n k : Nat) (g : Engine (BundledSource ⊕ κ)) (h : Host (Bundled ⊕ ρ)) :
    Prop where
  status : (g.next h).1 = .ok (status n k)
  delivery : g.delivery h =
    if TestSource.status n k = .ok then some (ticked t g.platform h.now (k / 2)) else none
  ticks : (g.next h).2.1.Ticks t n (k + 1) (g.next h).2.2

section Open
variable (keeps : h.Keeps t (state n)) (going : g.finished = none)
  (opened : g.source = some (.plugin ⟨t, "test_source", TestSource.ticks n k, []⟩))

include keeps going opened

theorem next_of_even (quiet : ∀ p ∈ g.registry.plugins, p.manifest.can .eventParsing = false)
    (count : g.nextNum = (k + 1) / 2) (inside : k + 1 < 2 * n) (even : k % 2 = 0) : Next t n k g h := by
  obtain ⟨h', after, pulled⟩ := keeps.pull "test_source" (nextBatch_of_even inside even)
  obtain ⟨stepped, delivers⟩ := Engine.next_event going opened pulled quiet
  have answer : TestSource.status n k = .ok := by rw [TestSource.status, if_pos inside, if_pos even]
  have count : g.nextNum = k / 2 := by omega
  have tick : g.number ⟨h.now, "test_source", pluginEventType, Utf8.encode s!"tick={k / 2}", some t⟩ =
      ticked t g.platform h.now (k / 2) := by
    rw [number, count]
    rfl
  constructor
  · rw [stepped, answer]
  · rw [delivers, answer, if_pos rfl]
    exact congrArg some tick
  · rw [stepped]
    have half : (k + 1) / 2 = k / 2 := by omega
    refine ⟨after, fun _ _ => ⟨h.now, ?_⟩, .inl ⟨by omega, going, ?_, rfl⟩⟩
    · rw [half]
      exact congrArg some tick
    · have next : k / 2 + 1 = (k + 1 + 1) / 2 := by omega
      rw [← next, ← count]
      rfl

theorem next_of_odd (count : g.nextNum = (k + 1) / 2) (inside : k + 1 < 2 * n) (odd : k % 2 = 1) :
    Next t n k g h := by
  obtain ⟨h', after, pulled⟩ := keeps.pull "test_source" (nextBatch_of_odd inside odd)
  obtain ⟨stepped, delivers⟩ := Engine.next_timeout going opened pulled
  have answer : TestSource.status n k = .timeout := by
    rw [TestSource.status, if_pos inside, if_neg (by omega)]
  constructor
  · rw [stepped, answer]
  · rw [delivers, answer]
    rfl
  · rw [stepped]
    refine ⟨after, fun odd' _ => by omega, .inl ⟨by omega, going, ?_, rfl⟩⟩
    have next : (k + 1) / 2 = (k + 1 + 1) / 2 := by omega
    rw [← next, ← count]
    rfl

theorem next_of_past (past : ¬ k + 1 < 2 * n) : Next t n k g h := by
  obtain ⟨h', after, pulled⟩ := keeps.pull "test_source" (nextBatch_of_past (Nat.not_lt.mp past))
  obtain ⟨stepped, delivers⟩ := Engine.next_eof going opened pulled
  have answer : TestSource.status n k = .eof := if_neg past
  constructor
  · rw [stepped, answer]
  · rw [delivers, answer]
    rfl
  · rw [stepped]
    exact ⟨after, fun _ inside => absurd inside past, .inr ⟨Nat.not_lt.mp past, rfl⟩⟩

end Open

theorem next (ticking : g.Ticks t n k h)
    (quiet : ∀ p ∈ g.registry.plugins, p.manifest.can .eventParsing = false) : Next t n k g h := by
  obtain ⟨within, going, count, opened⟩ | ⟨past, ended⟩ := ticking.phase
  · by_cases inside : k + 1 < 2 * n
    · obtain even | odd := Nat.mod_two_eq_zero_or_one k
      · exact next_of_even ticking.keeps going opened quiet count inside even
      · exact next_of_odd ticking.keeps going opened count inside odd
    · exact next_of_past ticking.keeps going opened inside
  · -- The stream is over, and nothing is asked for any more.
    obtain ⟨stepped, delivers⟩ := Engine.next_ended ended h
    have answer : TestSource.status n k = .eof := if_neg (by omega)
    constructor
    · rw [stepped, answer]
    · rw [delivers, answer]
      rfl
    · rw [stepped]
      exact ⟨ticking.keeps, fun _ inside => by omega, .inr ⟨by omega, ended⟩⟩

end Engine.Ticks

end Engines

/-! ## Configurations -/

namespace TestSource

theorem trimStart_of_dark {chars : List Char} (dark : ∀ c ∈ chars, Text.isBlank c = false) :
    Text.trimStart chars = chars := by
  cases chars with
  | nil => rfl
  | cons c rest => simp [Text.trimStart, dark c]

theorem trim_of_dark {text : String} (dark : ∀ c ∈ text.toList, Text.isBlank c = false) :
    Text.trim text = text := by
  have dark' : ∀ c ∈ text.toList.reverse, Text.isBlank c = false := by simpa using dark
  rw [Text.trim, trimStart_of_dark dark, trimStart_of_dark dark', List.reverse_reverse,
    String.ofList_toList]

/-- The digits of every number that fits in a word are accepted. -/
theorem init_toString {n : Nat} (fits : n < wordLimit) : init (toString n) = .ok ⟨n⟩ := by
  have trimmed : Text.trim (toString n) = toString n := by
    apply trim_of_dark
    rw [Numeral.toList_toString]
    exact fun c shown => Numeral.not_blank_of_isDigit (Numeral.isDigit_of_mem_toDigits shown)
  have parsed : Numeral.parse (toString n) = .ok n := by
    rw [Numeral.parse, Numeral.toList_toString, Numeral.read_toDigits fits]
  unfold init
  rw [trimmed]
  split
  · rename_i nothing
    rw [nothing] at parsed
    cases parsed
  · rw [parsed]

theorem init_eq_ok {config : String} {n : Nat} (accepted : init config = .ok ⟨n⟩) : n < wordLimit := by
  unfold init at accepted
  split at accepted
  · cases accepted
    decide
  · split at accepted
    · rename_i read
      cases accepted
      exact (Numeral.read_eq_ok_iff.mp read).fits
    · cases accepted

end TestSource

/-! ## Runs -/

/-- What a driver shows of the tick that a handle names. -/
structure Driver.ShowsTick [Plugin ρ κ] (d : Driver (BundledSource ⊕ κ)) (h : Host (Bundled ⊕ ρ))
    (handle : EventHandle) (j : Nat) : Prop where
  num : d.Shows h handle "evt.num" (toString j) ⟨0, 0⟩
  /-- The field of the plugin and the general one say the same of the same place. -/
  tick : ∀ field ∈ ["test.tick", "evt.arg[tick]"],
    d.Shows h handle field (toString j) ⟨5, (toString j).length⟩
  info : d.Shows h handle "evt.plugininfo" s!"test_source event: tick={j}" ⟨0, 0⟩

/-- What a driver does and shows after `k` steps since it opened a source of `n` ticks. -/
structure Driver.TicksAlong [Plugin ρ κ] (d : Driver (BundledSource ⊕ κ)) (h : Host (Bundled ⊕ ρ))
    (owner : Handle) (n k : Nat) : Prop where
  answers : (d.next h).1 =
    .ok ((TestSource.statuses n)[k]?.getD .eof, ⟨d.id, (d.delivery h).map Event.num⟩)
  delivers : d.delivery h =
    if k + 1 < 2 * n ∧ k % 2 = 0 then some (TestSource.ticked owner d.engine.platform h.now (k / 2))
    else none
  shows : ∀ j < n, k = 2 * j + 1 → d.ShowsTick h ⟨d.id, some j⟩ j

/-- The calls that set up a driver so. The plugin is named as its registration names it. -/
def TestSource.setUp (i : Nat) (config params : String) (platform : Bool) (t : Handle) :
    List (Nat × DriverCall (Bundled ⊕ ρ)) :=
  [(i, .register (Bundled.testSource.map .inl) config), (i, .addExtractors t "test_source"),
    (i, .openPlugin "test_source" params platform)]

def TestSource.setUpLog (i : Nat) (config params : String) (platform : Bool) (t : Handle)
    (log : List (Exchange (Bundled ⊕ ρ))) : List (Exchange (Bundled ⊕ ρ)) :=
  ⟨i, .openPlugin "test_source" params platform, .opened (.ok ()), none⟩ ::
  ⟨i, .addExtractors t "test_source", .done, none⟩ ::
  ⟨i, .register (Bundled.testSource.map .inl) config, .registered (.ok t), none⟩ :: log

namespace Process
variable [Plugin ρ κ] {p : Process (Bundled ⊕ ρ) (BundledSource ⊕ κ)} {d : Driver (BundledSource ⊕ κ)}
  {log newer : List (Exchange (Bundled ⊕ ρ))} {i n : Nat} {t : Handle} {config params : String}
  {platform : Bool}

open TestSource

theorem init_testSource (accepted : init config = .ok ⟨n⟩) :
    (Bundled.testSource.map .inl : Descriptor (Bundled ⊕ ρ)).init config = .ok (state n) := by
  simp only [Descriptor.map, Bundled.testSource, TestSource.descriptor, accepted, Outcome.map]

/-- What a driver has when it opens a source of ticks. -/
theorem ticks_start (g : Engine (BundledSource ⊕ κ)) {h : Host (Bundled ⊕ ρ)}
    {source : BundledSource ⊕ κ} (detected : Option Platform) (keeps : h.Keeps t (state n))
    (opened : (Plugin.openSource (state n : Bundled ⊕ ρ) params).1 = .ok source) :
    (g.start (.plugin ⟨t, "test_source", source, []⟩) detected).Ticks t n 0 h := by
  cases opened
  exact ⟨keeps, fun odd _ => (by cases odd), .inl ⟨Nat.zero_le _, rfl, rfl, rfl⟩⟩

/-- What is shown of the current tick. -/
theorem Run.shows_tick {j now : Nat} (run : Run p log) (there : p.driver? i = some d)
    (manifest : t.manifest = TestSource.descriptor.manifest) (known : t ∈ addedBy i log)
    (sole : ∀ r ∈ addedBy i log, r = t) (keeps : p.host.Keeps t (state n)) (fits : j < wordLimit)
    (current : d.engine.current = some (ticked t d.engine.platform now j)) :
    d.ShowsTick p.host ⟨d.id, some j⟩ j := by
  have offers := (run.stocked there).offers (run.coherent there)
  have reads : t.manifest.reads "test_source" = true := by rw [manifest]; rfl
  constructor
  · have resolved : (d.extractors.resolve "evt.num").1 = .ok (.generic ⟨"evt.num", none⟩ .num) :=
      offers.general _ _ _ rfl ⟨rfl, rfl⟩
    exact Driver.shows_value (v := .plain (.number j)) resolved current fun _ => rfl
  · intro field named
    simp only [List.mem_cons, List.not_mem_nil, or_false] at named
    obtain rfl | rfl := named
    · have resolved : (d.extractors.resolve "test.tick").1 =
          .ok (.plugin ⟨"test.tick", none⟩ t 0 TestSource.descriptor.manifest.fields[0]) :=
        offers.resolve_sole known sole rfl rfl (by rw [manifest]; rfl) rfl
      exact Driver.shows_extracted resolved current reads keeps (Plugin.still_bundled _) fun offsets =>
        extract_event fits rfl
    · have resolved : (d.extractors.resolve "evt.arg[tick]").1 =
          .ok (.generic ⟨"evt.arg", some "tick"⟩ .argument) :=
        offers.general _ _ _ rfl ⟨rfl, rfl⟩
      have found : (Extractor.generic ⟨"evt.arg", some "tick"⟩ .argument).extract p.host
          (ticked t d.engine.platform now j) = fun _ =>
            (.ok [⟨.text (toString j), some ⟨5, (toString j).length⟩⟩], p.host) := by
        funext offsets
        simp only [Extractor.extract, Extractor.extractGeneric, ticked, Option.getD_some,
          findArgument_event, Extracted.located, Numeral.width_toDigits,
          Numeral.clamped_toDigits fits (Nat.le_refl 5), Numeral.ofList_toDigits]
      exact Driver.shows_value resolved current (congrFun found)
  · have resolved : (d.extractors.resolve "evt.plugininfo").1 =
        .ok (.generic ⟨"evt.plugininfo", none⟩ .pluginInfo) :=
      offers.general _ _ _ rfl ⟨rfl, rfl⟩
    refine Driver.shows_rendered resolved current rfl keeps (Plugin.still_bundled _) ?_
    simp only [Plugin.render, ticked, Event.text, Utf8.lossy_encode]
    rfl

/-- A driver that has opened a source of ticks sees them all, and shows each of them. -/
theorem Run.ticking_shows (run : Run p log) (there : p.driver? i = some d)
    (accepted : init config = .ok ⟨n⟩)
    (feeding : Feeding i (Bundled.testSource.map .inl) config t t log newer) :
    d.TicksAlong p.host t n (stepsBy i newer) := by
  have fits := init_eq_ok accepted
  have manifest : t.manifest = TestSource.descriptor.manifest := (run.registered_by feeding.registered).1
  have quiet : ∀ r ∈ registeredBy i log, r.manifest.can .eventParsing = false := by
    intro r known
    rw [(feeding.only r known).elim id id, manifest]
    rfl
  have persists : Engine.Persists (fun k g (h : Host (Bundled ⊕ ρ)) => Engine.Ticks t n k g h) t :=
    { kept := fun k g h registry h' leaves ticks => ticks.kept registry leaves
      next := fun k g h quiet ticks => (ticks.next quiet).ticks }
  obtain ⟨capturing, ticks⟩ := run.feeds there feeding (init_testSource accepted)
    (Plugin.still_bundled _) quiet rfl persists
    fun g h params state detected keeps opened => ticks_start g detected keeps opened
  rw [← run.plugins_eq there] at quiet
  have next := ticks.next quiet
  have delivery : d.delivery p.host = d.engine.delivery p.host := by
    simp only [Driver.delivery, capturing]
  constructor
  · rw [Driver.next_of_capturing capturing, next.status, status_eq, delivery]
    rfl
  · rw [delivery, next.delivery]
    simp only [status_eq_ok_iff]
  · intro j inside steps
    obtain ⟨now, current⟩ := ticks.current (by omega) (by omega)
    have half : stepsBy i newer / 2 = j := by omega
    rw [half] at current
    exact run.shows_tick there manifest feeding.added feeding.sole ticks.keeps (by omega) current

theorem feeding_setUpLog (unlogged : ∀ x ∈ log, x.driver ≠ i)
    (manifest : t.manifest = TestSource.descriptor.manifest) :
    Feeding i (Bundled.testSource.map .inl) config t t (setUpLog i config params platform t log) [] := by
  have registered : registeredBy i (setUpLog i config params platform t log) = [t] := by
    simp only [setUpLog, registeredBy_own, registeredBy_eq_nil unlogged]
    rfl
  have addable : t.addable "test_source" = true := by
    rw [Handle.addable, manifest]
    rfl
  have added : addedBy i (setUpLog i config params platform t log) = [t] := by
    simp only [setUpLog, addedBy_own, addedBy_eq_nil unlogged, DriverCall.adds, addable, if_true]
    rfl
  refine ⟨⟨params, platform, _, rfl, by simp⟩, ?_, ?_, ?_⟩
  · simp [registered]
  · simp [added]
  · simp [added]

/-- A driver that has done nothing yet is set up without a failure. -/
theorem Run.sets_up_ticks (run : Run p log) (there : p.driver? i = some d)
    (unlogged : ∀ x ∈ log, x.driver ≠ i) (accepted : init config = .ok ⟨n⟩)
    (owner : t = ⟨p.host.slots.length, TestSource.descriptor.manifest⟩) (params : String)
    (platform : Bool) :
    (p.play log (setUp i config params platform t)).2 = setUpLog i config params platform t log := by
  have made := init_testSource (ρ := ρ) accepted
  have name : t.name = "test_source" := by rw [owner]; rfl
  have silent : t.manifest.can .eventParsing = false := by rw [owner]; rfl
  have generates : t.manifest.generates = some "test_source" := by rw [owner]; rfl
  unfold setUp
  obtain ⟨p₁, d₁, run₁, there₁, _, played⟩ :=
    run.play_register there rfl (by simp [registeredBy_eq_nil unlogged]) made owner
  rw [played]
  obtain ⟨p₂, d₂, run₂, there₂, played⟩ := run₁.play_addExtractors there₁ t "test_source"
  rw [played]
  refine run₂.play_openPlugin there₂ ⟨_, config, made, by simp⟩ (Plugin.still_bundled _) silent ?_ name
    generates rfl platform
  rw [opensBy_closed rfl, opensBy_closed rfl, opensBy_eq_nil unlogged]

/-- Every number of ticks can be configured; a driver that has done nothing yet is set up with it without
a failure; and from the open on it sees the ticks, whatever is called in between. -/
theorem Run.ticks_along (fits : n < wordLimit) :
    init (toString n) = .ok ⟨n⟩ ∧ ∀ config, init config = .ok ⟨n⟩ →
      (∀ (p : Process (Bundled ⊕ ρ) (BundledSource ⊕ κ)) log i d params platform, Run p log →
        p.driver? i = some d → (∀ x ∈ log, x.driver ≠ i) → ∃ t d',
          Run (p.play log (setUp i config params platform t)).1
            (p.play log (setUp i config params platform t)).2 ∧
          (p.play log (setUp i config params platform t)).1.driver? i = some d' ∧
          Feeding i (Bundled.testSource.map .inl) config t t
            (p.play log (setUp i config params platform t)).2 []) ∧
      ∀ (p : Process (Bundled ⊕ ρ) (BundledSource ⊕ κ)) log newer i d t, Run p log →
        p.driver? i = some d → Feeding i (Bundled.testSource.map .inl) config t t log newer →
        d.TicksAlong p.host t n (stepsBy i newer) := by
  refine ⟨init_toString fits, fun config accepted => ⟨?_, ?_⟩⟩
  · intro p log i d params platform run there unlogged
    refine ⟨⟨p.host.slots.length, TestSource.descriptor.manifest⟩, ?_⟩
    obtain ⟨d', there'⟩ := play_driver ⟨d, there⟩ (setUp i config params platform _)
    refine ⟨d', run.play _, there', ?_⟩
    rw [run.sets_up_ticks there unlogged accepted rfl]
    exact feeding_setUpLog unlogged rfl
  · intro p log newer i d t run there feeding
    exact run.ticking_shows there accepted feeding

/-- After a tick and the timeout behind it, the second tick comes and is shown. -/
theorem oneDriver_ticks_along :
    ∃ (p : Process (Bundled ⊕ Scripted) (BundledSource ⊕ Scripted.Stream)) (d : _) (t : Handle),
      p.driver? 0 = some d ∧ d.TicksAlong p.host t 2 3 ∧ d.ShowsTick p.host ⟨d.id, some 1⟩ 1 ∧
      (d.next p.host).1 = .ok (.eof, ⟨d.id, none⟩) := by
  obtain ⟨accepted, all⟩ := @Run.ticks_along Scripted Scripted.Stream _ 2 (by decide)
  obtain ⟨sets, shows⟩ := all _ accepted
  obtain ⟨d₀, there₀⟩ : ∃ d, oneDriver.driver? 0 = some d :=
    Option.isSome_iff_exists.mp (by decide +kernel)
  obtain ⟨t, d₁, run₁, there₁, feeding₁⟩ :=
    sets oneDriver [] 0 d₀ "" false (.create .default (.start .bare)) there₀ (by simp)
  obtain ⟨p₂, d₂, x₂, run₂, there₂, feeding₂, steps₂⟩ := run₁.feeding_step there₁ feeding₁
  obtain ⟨p₃, d₃, x₃, run₃, there₃, feeding₃, steps₃⟩ := run₂.feeding_step there₂ feeding₂
  obtain ⟨p₄, d₄, x₄, run₄, there₄, feeding₄, steps₄⟩ := run₃.feeding_step there₃ feeding₃
  have ticks := shows p₄ _ _ 0 d₄ t run₄ there₄ feeding₄
  rw [steps₄, steps₃, steps₂] at ticks
  have ended : d₄.delivery p₄.host = none := ticks.delivers
  have answer := ticks.answers
  rw [ended] at answer
  exact ⟨p₄, d₄, t, there₄, ticks, ticks.shows 1 (by decide) rfl, answer⟩

end Process

end EventProbe
