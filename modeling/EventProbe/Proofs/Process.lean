import EventProbe.Proofs.DriverExtraction
import EventProbe.Proofs.EngineSteps
import EventProbe.Proofs.HostHistory
import EventProbe.Plugins.Bundled

/-! Runs of a process with any number of drivers. A program makes drivers, calls their operations in
any order and drops them; plugins may fail or panic in any call. A run carries the log of all calls,
newest first. -/
namespace EventProbe

inductive DriverCall (π : Type) where
  | register (plugin : Descriptor π) (config : String)
  | addExtractors (plugin : Handle) (source : String)
  /-- Carries the contents that the file has at the time of the call. -/
  | openCapture (file : Except IoFault (List UInt8))
  | openPlugin (name params : String) (platform : Bool)
  | next
  | extractText (field : String) (handle : EventHandle)
  | extractWithOffsets (field : String) (handle : EventHandle)
  | metrics

def DriverCall.isNext : DriverCall π → Bool
  | .next => true
  | _ => false

inductive Reply where
  | registered (result : Outcome DriverFault Handle)
  | done
  | opened (result : Outcome DriverFault Unit)
  | stepped (result : Except Panic (Status × EventHandle))
  | text (result : Outcome DriverFault String)
  | located (result : Outcome DriverFault (String × Range))
  | measured (result : Except Panic (List (String × Nat)))

namespace Driver

/-- What an operation other than a step changes of a driver. The stream is as it was, unless it is
opened, which happens to an idle driver only. -/
inductive Effect (d : Driver ι) : Driver ι → Prop where
  | kept (registry : Registry) (extractors : Extractors) (collector : Collector) :
      Effect d { d with engine := { d.engine with registry }, extractors, collector }
  | opened (source : Source ι) (platform : Option Platform) :
      d.state = .idle → d.engine.source = none →
      Effect d { d with engine := d.engine.start source platform, state := .capturing }

theorem register_effect (d : Driver ι) (h : Host π) (plugin : Descriptor π) (config : String) :
    Effect d (d.register h plugin config).2.1 :=
  .kept _ _ _

theorem addExtractors_driver (d : Driver ι) (p : Handle) (source : String) :
    ∃ others, d.addExtractors p source = { d with extractors := others } := by
  unfold addExtractors
  split
  · dsimp only
    split <;> exact ⟨_, rfl⟩
  · exact ⟨_, rfl⟩

theorem addExtractors_effect (d : Driver ι) (plugin : Handle) (source : String) :
    Effect d (d.addExtractors plugin source) := by
  obtain ⟨others, changed⟩ := d.addExtractors_driver plugin source
  rw [changed]
  exact .kept d.engine.registry others d.collector

theorem prepare_driver (d : Driver ι) (field : String) (handle : EventHandle) :
    ∃ others, (d.prepare field handle).2 = { d with extractors := others } :=
  ⟨_, d.prepare_resolve field handle⟩

theorem prepare_effect (d : Driver ι) (field : String) (handle : EventHandle) :
    Effect d (d.prepare field handle).2 := by
  obtain ⟨others, changed⟩ := d.prepare_driver field handle
  rw [changed]
  exact .kept d.engine.registry others d.collector

theorem beginCapture_idle {d : Driver ι} (ready : d.beginCapture = .ok u) : d.state = .idle := by
  unfold beginCapture at ready
  cases state : d.state with
  | idle => rfl
  | capturing => simp [state, CaptureState.mayBecome] at ready

theorem openCapture_effect (d : Driver ι) (file : Except IoFault (List UInt8)) :
    Effect d (d.openCapture file).2 := by
  have same : Effect d d := .kept d.engine.registry d.extractors d.collector
  unfold openCapture
  split
  · exact same
  · rename_i ready
    rcases d.engine.openCapture_cases file with ⟨fault, refused⟩ | ⟨closed, _, _, _, _, started⟩
    · simp only [refused]
      exact same
    · simp only [started]
      exact .opened _ _ (beginCapture_idle ready) closed

variable [Plugin π ι]

theorem openPlugin_effect (d : Driver ι) (h : Host π) (name params : String) (platform : Bool) :
    Effect d (d.openPlugin h name params platform).2.1 := by
  have same : Effect d d := .kept d.engine.registry d.extractors d.collector
  unfold openPlugin
  split
  · exact same
  · rename_i ready
    rcases d.engine.openPlugin_cases h name params platform with
      ⟨refused, kept⟩ | ⟨closed, _, _, _, _, _, _, _, started⟩
    · rcases answer : d.engine.openPlugin h name params platform with ⟨_ | _ | _, g, h'⟩
      · simp [answer] at refused
      all_goals
        rw [answer] at kept
        cases kept
        exact same
    · simp only [started]
      exact .opened _ _ (beginCapture_idle ready) closed

def perform (d : Driver ι) (h : Host π) : DriverCall π → Reply × Driver ι × Host π
  | .register plugin config =>
    let (result, d, h) := d.register h plugin config
    (.registered result, d, h)
  | .addExtractors plugin source => (.done, d.addExtractors plugin source, h)
  | .openCapture file =>
    let (result, d) := d.openCapture file
    (.opened (.ofExcept result), d, h)
  | .openPlugin name params platform =>
    let (result, d, h) := d.openPlugin h name params platform
    (.opened result, d, h)
  | .next =>
    let (result, d, h) := d.next h
    (.stepped result, d, h)
  | .extractText field handle =>
    let (result, d, h) := d.extractText h field handle
    (.text result, d, h)
  | .extractWithOffsets field handle =>
    let (result, d, h) := d.extractWithOffsets h field handle
    (.located result, d, h)
  | .metrics =>
    let (result, d, h) := d.metrics h
    (.measured result, d, h)

/-- The event that a step of a driver will deliver. -/
def delivery (d : Driver ι) (h : Host π) : Option Event :=
  match d.state with
  | .idle => none
  | .capturing => d.engine.delivery h

def delivered (d : Driver ι) (h : Host π) : DriverCall π → Option Event
  | .next => d.delivery h
  | _ => none

theorem extractText_effect (d : Driver ι) (h : Host π) (field : String) (handle : EventHandle) :
    Effect d (d.extractText h field handle).2.1 := by
  rw [extractText_driver]
  exact d.prepare_effect field handle

theorem extractWithOffsets_effect (d : Driver ι) (h : Host π) (field : String)
    (handle : EventHandle) : Effect d (d.extractWithOffsets h field handle).2.1 := by
  rw [extractWithOffsets_driver]
  exact d.prepare_effect field handle

theorem perform_effect (d : Driver ι) (h : Host π) {call : DriverCall π}
    (rest : ¬ call.isNext) : Effect d (d.perform h call).2.1 := by
  cases call with
  | register plugin config => exact d.register_effect h plugin config
  | addExtractors plugin source => exact d.addExtractors_effect plugin source
  | openCapture file => exact d.openCapture_effect file
  | openPlugin name params platform => exact d.openPlugin_effect h name params platform
  | next => exact absurd rfl rest
  | extractText field handle => exact d.extractText_effect h field handle
  | extractWithOffsets field handle => exact d.extractWithOffsets_effect h field handle
  | metrics => exact .kept d.engine.registry d.extractors _

theorem next_of_idle {d : Driver ι} (idle : d.state = .idle) (h : Host π) :
    d.next h = (.ok (.error, ⟨d.id, none⟩), d, h) := by
  simp only [next, idle]

/-- The answer of a step names the event that the step delivers. -/
theorem next_of_capturing {d : Driver ι} (capturing : d.state = .capturing) (h : Host π) :
    d.next h = ((d.engine.next h).1.map fun status =>
        (status, ⟨d.id, (d.engine.delivery h).map Event.num⟩),
      { d with engine := (d.engine.next h).2.1 }, (d.engine.next h).2.2) := by
  have step := d.engine.next_advances h
  rcases stepped : d.engine.next h with ⟨result, g, h'⟩
  rw [stepped] at step
  simp only [next, capturing, stepped]
  generalize d.engine.delivery h = delivered at step
  cases step with
  | ended => rename_i status _; cases status <;> rfl
  | _ => rfl

/-- Unless it adds extractors, an operation at most resolves a field. -/
theorem perform_extractors (d : Driver ι) (h : Host π) {c : DriverCall π}
    (rest : ∀ p source, c ≠ .addExtractors p source) :
    (d.perform h c).2.1.extractors = d.extractors ∨
      ∃ field, (d.perform h c).2.1.extractors = (d.extractors.resolve field).2 := by
  cases c with
  | register plugin config => exact .inl rfl
  | addExtractors p source => exact absurd rfl (rest p source)
  | openCapture file =>
    left
    unfold perform openCapture
    dsimp only
    split
    · rfl
    · split <;> rfl
  | openPlugin name params platform =>
    left
    unfold perform openPlugin
    dsimp only
    split
    · rfl
    · split <;> rfl
  | next =>
    left
    unfold perform
    cases state : d.state with
    | idle => rw [next_of_idle state]
    | capturing => rw [next_of_capturing state]
  | extractText field handle =>
    right
    simp only [perform, extractText_driver, prepare_resolve]
    exact ⟨field, rfl⟩
  | extractWithOffsets field handle =>
    right
    simp only [perform, extractWithOffsets_driver, prepare_resolve]
    exact ⟨field, rfl⟩
  | metrics => exact .inl rfl

theorem perform_continues (d : Driver ι) (h : Host π) (call : DriverCall π) :
    h.Continues (d.perform h call).2.2 := by
  cases call with
  | register plugin config => exact d.engine.register_continues h plugin config
  | addExtractors plugin source => exact .refl h
  | openCapture file => exact .refl h
  | openPlugin name params platform => exact d.openPlugin_continues h name params platform
  | next => exact d.next_continues h
  | extractText field handle => exact Host.continues_observed.extractText d h field handle
  | extractWithOffsets field handle => exact Host.continues_observed.extractWithOffsets d h field handle
  | metrics => exact Host.continues_observed.collect d.collector d.engine h

end Driver

/-- A call of a driver as it is logged. -/
structure Exchange (π : Type) where
  /-- The place of the driver among all drivers of the process. -/
  driver : Nat
  call : DriverCall π
  reply : Reply
  delivered : Option Event

/-- A process with all drivers that were made in it. A dropped driver leaves its place empty. -/
structure Process (π ι : Type) where
  host : Host π
  drivers : List (Option (Driver ι))

namespace Process

def driver? (p : Process π ι) (i : Nat) : Option (Driver ι) :=
  p.drivers[i]?.join

/-- Makes a driver; settings that are not valid make none. -/
def create (p : Process π ι) (settings : Config.Settings) : Process π ι :=
  match Driver.withSettings p.host settings with
  | (.ok d, host) => ⟨host, p.drivers ++ [some d]⟩
  | (.error _, host) => ⟨host, p.drivers⟩

/-- The process after something happened to the driver at a place. -/
def update (p : Process π ι) (i : Nat) (d : Option (Driver ι)) (host : Host π) : Process π ι :=
  ⟨host, p.drivers.set i d⟩

/-- The processes that come about from a fresh one, with the calls on the way. Between two calls time
passes, and the environment may change. -/
inductive Run [Plugin π ι] : Process π ι → List (Exchange π) → Prop where
  | start (environment : Environment) : Run ⟨Host.fresh environment, []⟩ []
  | elapse (environment : Environment) (now : Nat) : Run p log →
      Run { p with host := { p.host with environment, now } } log
  | create (settings : Config.Settings) : Run p log → Run (p.create settings) log
  | call (c : DriverCall π) : Run p log → p.driver? i = some d →
      Run (p.update i (d.perform p.host c).2.1 (d.perform p.host c).2.2)
        (⟨i, c, (d.perform p.host c).1, d.delivered p.host c⟩ :: log)
  | drop : Run p log → p.driver? i = some d → Run (p.update i none (d.drop p.host).2) log

/-- Makes calls one after the other. A call of a driver that is not there is not made. -/
def play [Plugin π ι] (p : Process π ι) (log : List (Exchange π)) :
    List (Nat × DriverCall π) → Process π ι × List (Exchange π)
  | [] => (p, log)
  | (i, c) :: rest =>
    match p.driver? i with
    | none => play p log rest
    | some d =>
      play (p.update i (d.perform p.host c).2.1 (d.perform p.host c).2.2)
        (⟨i, c, (d.perform p.host c).1, d.delivered p.host c⟩ :: log) rest

theorem Run.play [Plugin π ι] {p : Process π ι} {log : List (Exchange π)} (run : Run p log)
    (calls : List (Nat × DriverCall π)) : Run (p.play log calls).1 (p.play log calls).2 := by
  induction calls generalizing p log with
  | nil => exact run
  | cons call rest ih =>
    obtain ⟨i, c⟩ := call
    unfold Process.play
    split
    · exact ih run
    · rename_i d there
      exact ih (run.call c there)

theorem driver?_eq_some {p : Process π ι} : p.driver? i = some d ↔ p.drivers[i]? = some (some d) := by
  unfold driver?
  cases p.drivers[i]? with
  | none => simp
  | some place => cases place <;> simp

theorem driver?_update_ne {p : Process π ι} (other : j ≠ i) :
    (p.update i d h).driver? j = p.driver? j := by
  simp only [driver?, update, List.getElem?_set_ne (Ne.symm other)]

theorem driver?_update_self {p : Process π ι} (there : p.driver? i = some d) :
    (p.update i d' h).driver? i = d' := by
  obtain ⟨bound, _⟩ := List.getElem?_eq_some_iff.mp (driver?_eq_some.mp there)
  simp only [driver?, update, List.getElem?_set_self bound, Option.join_some]

theorem driver?_lt {p : Process π ι} (there : p.driver? i = some d) : i < p.drivers.length :=
  (List.getElem?_eq_some_iff.mp (driver?_eq_some.mp there)).1

/-- A new driver takes the next place, and its id is the number of drivers made so far. -/
theorem create_cases (p : Process π ι) (settings : Config.Settings) :
    p.create settings = p ∨
      ∃ flags hostname, p.create settings = ⟨{ p.host with drivers := p.host.drivers + 1 },
        p.drivers ++ [some ⟨p.host.drivers + 1, Engine.fresh hostname, Extractors.fresh,
          Collector.fresh flags, .idle⟩]⟩ := by
  unfold create Driver.withSettings
  cases settings.validate with
  | error reason => exact .inl rfl
  | ok _ => exact .inr ⟨settings.metrics, settings.engine.hostname, rfl⟩

/-- A driver that is there after one was made was there before, or is the new one. -/
theorem driver?_create {p : Process π ι} (alive : (p.create settings).driver? j = some d) :
    p.driver? j = some d ∨ j = p.drivers.length ∧ ∃ flags hostname,
      d = ⟨p.host.drivers + 1, Engine.fresh hostname, Extractors.fresh, Collector.fresh flags,
        .idle⟩ := by
  rcases p.create_cases settings with same | ⟨flags, hostname, made⟩
  · rw [same] at alive
    exact .inl alive
  · rw [made, driver?_eq_some] at alive
    by_cases old : j < p.drivers.length
    · rw [List.getElem?_append_left old] at alive
      exact .inl (driver?_eq_some.mpr alive)
    · have bound := (List.getElem?_eq_some_iff.mp alive).1
      have last : j = p.drivers.length := by
        simp only [List.length_append, List.length_singleton] at bound
        omega
      subst last
      rw [List.getElem?_concat_length] at alive
      cases alive
      exact .inr ⟨rfl, flags, hostname, rfl⟩

/-- What holds of new drivers and is kept by their operations holds of every driver. -/
theorem Run.driver_holds [Plugin π ι] {p : Process π ι} {log : List (Exchange π)}
    (holds : Driver ι → Prop)
    (fresh : ∀ id hostname flags,
      holds ⟨id, Engine.fresh hostname, Extractors.fresh, Collector.fresh flags, .idle⟩)
    (kept : ∀ d h (c : DriverCall π), holds d → holds (d.perform h c).2.1)
    (run : Run p log) (there : p.driver? i = some d) : holds d := by
  induction run generalizing i d with
  | start environment => simp [driver?] at there
  | elapse environment now run ih => exact ih there
  | create settings run ih =>
    obtain old | ⟨_, flags, hostname, rfl⟩ := driver?_create there
    · exact ih old
    · exact fresh _ hostname flags
  | @call p log j e c run alive ih =>
    by_cases own : i = j
    · subst own
      rw [driver?_update_self alive] at there
      cases there
      exact kept e p.host c (ih alive)
    · rw [driver?_update_ne own] at there
      exact ih there
  | @drop p log j e run alive ih =>
    by_cases own : i = j
    · subst own
      rw [driver?_update_self alive] at there
      cases there
    · rw [driver?_update_ne own] at there
      exact ih there

/-- Two drivers that capture ticks, after one step each. -/
def ticking : Process Bundled BundledSource × List (Exchange Bundled) :=
  let fresh : Process Bundled BundledSource := ⟨Host.fresh .bare, []⟩
  ((fresh.create .default).create .default).play [] [
    (0, .register Bundled.testSource "2"), (0, .openPlugin "test_source" "" false), (0, .next),
    (1, .register Bundled.testSource "2"), (1, .openPlugin "test_source" "" false), (1, .next)]

theorem ticking_run : Run ticking.1 ticking.2 :=
  .play (.create .default (.create .default (.start .bare))) _

end Process

end EventProbe
