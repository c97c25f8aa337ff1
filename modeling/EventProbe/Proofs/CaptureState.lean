import EventProbe.Proofs.ProcessHistory

/-! The capture state of a driver and the source of its engine are kept apart, and agree in every state
of a run. So a driver opens one source at most, and its engine never has to refuse it a second one. -/
namespace EventProbe

def Reply.opens : Reply → Bool
  | .opened (.ok _) => true
  | _ => false

/-- The calls with which a driver opened a source, newest first. -/
def opensBy (i : Nat) (log : List (Exchange π)) : List (Exchange π) :=
  log.filter fun x => x.driver == i && x.reply.opens

def Outcome.reason? : Outcome ε α → Option ε
  | .failed reason => some reason
  | _ => none

def Reply.fault? : Reply → Option DriverFault
  | .registered result => result.reason?
  | .opened result => result.reason?
  | .text result => result.reason?
  | .located result => result.reason?
  | _ => none

theorem Outcome.reason?_eq_some {o : Outcome ε α} : o.reason? = some e ↔ o = .failed e := by
  cases o <;> simp [reason?]

/-- A fault of the file system, or of a source that does not open. -/
inductive DriverFault.OfOpening : DriverFault → Prop where
  | io (fault : IoFault) : OfOpening (.io fault)
  | opening (fault : OpenFault) : OfOpening (.opening fault)

/-- A fault that does not come from an engine in a wrong state. -/
def DriverFault.Regular (fault : DriverFault) : Prop :=
  ∀ cause, fault ≠ .engine cause

theorem DriverFault.ofOpen_ofOpening {fault : OpenFault} (other : fault ≠ .alreadyCapturing) :
    (DriverFault.ofOpen fault).OfOpening := by
  cases fault with
  | alreadyCapturing => contradiction
  | io fault => exact .io fault
  | _ => exact .opening _

theorem DriverFault.OfOpening.regular {fault : DriverFault} (opening : fault.OfOpening) :
    fault.Regular := by
  intro cause same
  cases opening <;> cases same

namespace Engine
variable {g : Engine ι} {file : Except IoFault (List UInt8)}

theorem openCapture_fault (closed : g.source = none)
    (failed : (g.openCapture file).1 = .error fault) : fault ≠ .alreadyCapturing := by
  simp only [openCapture, isCapturing, closed, Option.isSome_none, Bool.false_eq_true,
    if_false] at failed
  cases file with
  | error cause =>
    cases failed
    simp
  | ok bytes =>
    dsimp only at failed
    split at failed
    · cases failed
      simp
    · cases failed

theorem openPlugin_fault [Plugin π ι] {h : Host π} {name params : String} {platform : Bool}
    (closed : g.source = none)
    (failed : (g.openPlugin h name params platform).1 = .failed fault) :
    fault ≠ .alreadyCapturing := by
  simp only [openPlugin, isCapturing, closed, Option.isSome_none, Bool.false_eq_true,
    if_false] at failed
  split at failed
  · cases failed
    simp
  · split at failed
    · cases failed
      simp
    · split at failed <;> cases failed
      simp

end Engine

namespace Driver
variable {d : Driver ι} {file : Except IoFault (List UInt8)}

/-- The driver says that it captures exactly if its engine has a source. -/
def Matched (d : Driver ι) : Prop :=
  d.state = .capturing ↔ d.engine.source.isSome = true

theorem Matched.closed (matched : d.Matched) (idle : d.state = .idle) : d.engine.source = none := by
  cases source : d.engine.source with
  | none => rfl
  | some s =>
    have capturing : d.state = .capturing := matched.mpr (by simp [source])
    cases idle.symm.trans capturing

theorem Matched.effect (matched : d.Matched) (effect : Effect d d') : d'.Matched := by
  cases effect with
  | kept registry extractors collector => exact matched
  | opened source platform idle closed => simp [Matched, Engine.start]

theorem beginCapture_of_idle (idle : d.state = .idle) : d.beginCapture = .ok () := by
  simp [beginCapture, idle, CaptureState.mayBecome]

theorem beginCapture_of_capturing (capturing : d.state = .capturing) :
    d.beginCapture = .error (.invalidTransition .capturing .capturing) := by
  simp [beginCapture, capturing, CaptureState.mayBecome]

theorem openCapture_of_capturing (capturing : d.state = .capturing)
    (file : Except IoFault (List UInt8)) :
    d.openCapture file = (.error (.invalidTransition .capturing .capturing), d) := by
  simp only [openCapture, beginCapture_of_capturing capturing]

theorem openCapture_of_idle (idle : d.state = .idle) (file : Except IoFault (List UInt8)) :
    (∃ fault, (d.engine.openCapture file).1 = .error fault ∧
      d.openCapture file = (.error (.ofOpen fault), d)) ∨
    ∃ g, d.engine.openCapture file = (.ok (), g) ∧
      d.openCapture file = (.ok (), { d with engine := g, state := .capturing }) := by
  unfold openCapture
  rw [beginCapture_of_idle idle]
  rcases d.engine.openCapture_cases file with ⟨fault, refused⟩ | ⟨_, _, _, _, _, started⟩
  · left
    exact ⟨fault, by rw [refused], by rw [refused]⟩
  · right
    exact ⟨_, started, by rw [started]⟩

section Plugins
variable [Plugin π ι] {h : Host π} {name params : String} {platform : Bool}

theorem openPlugin_of_capturing (capturing : d.state = .capturing) (h : Host π)
    (name params : String) (platform : Bool) :
    d.openPlugin h name params platform =
      (.failed (.invalidTransition .capturing .capturing), d, h) := by
  simp only [openPlugin, beginCapture_of_capturing capturing]

/-- What an open of an idle driver comes to: the answer of its engine, and no change of the driver
unless the source is open. -/
theorem openPlugin_of_idle (idle : d.state = .idle) (h : Host π) (name params : String)
    (platform : Bool) :
    (∃ fault h', d.engine.openPlugin h name params platform = (.failed fault, d.engine, h') ∧
      d.openPlugin h name params platform = (.failed (.ofOpen fault), d, h')) ∨
    (∃ p h', d.engine.openPlugin h name params platform = (.panicked p, d.engine, h') ∧
      d.openPlugin h name params platform = (.panicked p, d, h')) ∨
    ∃ g h', d.engine.openPlugin h name params platform = (.ok (), g, h') ∧
      d.openPlugin h name params platform =
        (.ok (), { d with engine := g, state := .capturing }, h') := by
  have kept := d.engine.openPlugin_cases h name params platform
  unfold openPlugin
  rw [beginCapture_of_idle idle]
  rcases answer : d.engine.openPlugin h name params platform with ⟨_ | fault | p, g, h'⟩
  · right; right
    exact ⟨g, h', rfl, rfl⟩
  · have same : g = d.engine := by simpa [answer] using kept
    subst same
    left
    exact ⟨fault, h', rfl, rfl⟩
  · have same : g = d.engine := by simpa [answer] using kept
    subst same
    right; left
    exact ⟨p, h', rfl, rfl⟩

theorem Matched.next (matched : d.Matched) (h : Host π) : (d.next h).2.1.Matched := by
  cases state : d.state with
  | idle =>
    rw [next_of_idle state]
    exact matched
  | capturing =>
    rw [next_of_capturing state]
    unfold Matched
    rw [(d.engine.next_advances h).source_isSome]
    exact matched

theorem Matched.perform (matched : d.Matched) (h : Host π) (c : DriverCall π) :
    (d.perform h c).2.1.Matched := by
  cases c with
  | next => exact matched.next h
  | _ => exact matched.effect (d.perform_effect h (by simp [DriverCall.isNext]))

/-! ## Faults -/

omit [Plugin π ι] in
theorem event_regular {handle : EventHandle} (failed : d.event handle = .error fault) :
    fault.Regular := by
  unfold event at failed
  repeat' split at failed
  all_goals
    cases failed
    try simp [DriverFault.Regular]

omit [Plugin π ι] in
theorem prepare_regular {field : String} {handle : EventHandle}
    (failed : (d.prepare field handle).1 = .error fault) : fault.Regular := by
  cases resolved : (d.extractors.resolve field).1 with
  | error cause =>
    rw [prepare_of_error resolved] at failed
    cases failed
    simp [DriverFault.Regular]
  | ok x =>
    rw [prepare_of_ok resolved] at failed
    cases found : d.event handle with
    | error cause =>
      rw [found] at failed
      cases failed
      exact event_regular found
    | ok e =>
      rw [found] at failed
      cases failed

theorem readText_regular {x : Extractor} {field : String} {e : Event}
    (failed : readText h x field e = .failed fault) : fault.Regular := by
  unfold readText renderField at failed
  split at failed <;> cases failed <;> simp [DriverFault.Regular]

theorem locateField_regular {x : Extractor} {field : String} {e : Event}
    (failed : (locateField h x field e).1 = .failed fault) : fault.Regular := by
  unfold locateField at failed
  split at failed <;> cases failed
  simp [DriverFault.Regular]

theorem readLocated_regular {x : Extractor} {field : String} {e : Event}
    (failed : readLocated h x field e = .failed fault) : fault.Regular := by
  have text : ∀ fault, readText h x field e = .failed fault → fault.Regular :=
    fun _ => readText_regular
  unfold readText at text
  unfold readLocated at failed
  rcases rendered : renderField h x field e with ⟨shown | cause | p, h'⟩
  · rw [rendered] at failed
    dsimp only at failed
    cases located : (locateField h' x field e).1 with
    | ok range =>
      rw [located] at failed
      cases failed
    | failed cause =>
      rw [located] at failed
      cases failed
      exact locateField_regular located
    | panicked p =>
      rw [located] at failed
      cases failed
  · rw [rendered] at failed text
    cases failed
    exact text _ rfl
  · rw [rendered] at failed
    cases failed

theorem extractText_regular {field : String} {handle : EventHandle}
    (failed : (d.extractText h field handle).1 = .failed fault) : fault.Regular := by
  cases ready : (d.prepare field handle).1 with
  | error cause =>
    rw [extractText_of_error ready] at failed
    cases failed
    exact prepare_regular ready
  | ok found =>
    rw [extractText_of_ok ready] at failed
    exact readText_regular failed

theorem extractWithOffsets_regular {field : String} {handle : EventHandle}
    (failed : (d.extractWithOffsets h field handle).1 = .failed fault) : fault.Regular := by
  cases ready : (d.prepare field handle).1 with
  | error cause =>
    rw [extractWithOffsets_of_error ready] at failed
    cases failed
    exact prepare_regular ready
  | ok found =>
    rw [extractWithOffsets_of_ok ready] at failed
    exact readLocated_regular failed

omit [Plugin π ι] in
theorem Matched.openCapture_failed (matched : d.Matched) (idle : d.state = .idle)
    (failed : (d.openCapture file).1 = .error fault) :
    fault.OfOpening ∧ (d.openCapture file).2 = d := by
  obtain ⟨cause, refused, same⟩ | ⟨g, _, started⟩ := openCapture_of_idle idle file
  · rw [same] at failed ⊢
    cases failed
    constructor
    · exact DriverFault.ofOpen_ofOpening (Engine.openCapture_fault (matched.closed idle) refused)
    · rfl
  · rw [started] at failed
    cases failed

theorem Matched.openPlugin_failed (matched : d.Matched) (idle : d.state = .idle)
    (failed : (d.openPlugin h name params platform).1 = .failed fault) :
    fault.OfOpening ∧ (d.openPlugin h name params platform).2.1 = d := by
  obtain ⟨cause, h', refused, same⟩ | ⟨p, h', _, same⟩ | ⟨g, h', _, same⟩ :=
    openPlugin_of_idle idle h name params platform
  · rw [same] at failed ⊢
    cases failed
    constructor
    · apply DriverFault.ofOpen_ofOpening
      exact Engine.openPlugin_fault (matched.closed idle) (by rw [refused])
    · rfl
  all_goals
    rw [same] at failed
    cases failed

theorem openPlugin_panicked (panicked : (d.openPlugin h name params platform).1 = .panicked p) :
    d.state = .idle ∧ (d.openPlugin h name params platform).2.1 = d := by
  cases state : d.state with
  | capturing =>
    rw [openPlugin_of_capturing state] at panicked
    cases panicked
  | idle =>
    refine ⟨rfl, ?_⟩
    obtain ⟨cause, h', _, same⟩ | ⟨p, h', _, same⟩ | ⟨g, h', _, same⟩ :=
      openPlugin_of_idle state h name params platform
    · rw [same]
    · rw [same]
    · rw [same] at panicked
      cases panicked

theorem perform_state (d : Driver ι) (h : Host π) (c : DriverCall π) :
    ((d.perform h c).1.opens = true ∧ d.state = .idle ∧
      (d.perform h c).2.1.state = .capturing) ∨
    ((d.perform h c).1.opens = false ∧ (d.perform h c).2.1.state = d.state) := by
  cases c with
  | openCapture file =>
    cases state : d.state with
    | capturing =>
      right
      simp [perform, openCapture_of_capturing state, Reply.opens, Outcome.ofExcept, state]
    | idle =>
      obtain ⟨fault, _, same⟩ | ⟨g, _, same⟩ := openCapture_of_idle state file
      · right
        simp [perform, same, Reply.opens, Outcome.ofExcept, state]
      · left
        simp [perform, same, Reply.opens, Outcome.ofExcept]
  | openPlugin name params platform =>
    cases state : d.state with
    | capturing =>
      right
      simp [perform, openPlugin_of_capturing state, Reply.opens, state]
    | idle =>
      obtain ⟨fault, h', _, same⟩ | ⟨p, h', _, same⟩ | ⟨g, h', _, same⟩ :=
        openPlugin_of_idle state h name params platform
      · right
        simp [perform, same, Reply.opens, state]
      · right
        simp [perform, same, Reply.opens, state]
      · left
        simp [perform, same, Reply.opens]
  | next =>
    right
    cases state : d.state with
    | idle => simp [perform, next_of_idle state, Reply.opens, state]
    | capturing => simp [perform, next_of_capturing state, Reply.opens, state]
  | addExtractors plugin source =>
    right
    obtain ⟨others, changed⟩ := d.addExtractors_driver plugin source
    simp [perform, changed, Reply.opens]
  | extractText field handle =>
    right
    obtain ⟨others, changed⟩ := d.prepare_driver field handle
    simp [perform, extractText_driver, changed, Reply.opens]
  | extractWithOffsets field handle =>
    right
    obtain ⟨others, changed⟩ := d.prepare_driver field handle
    simp [perform, extractWithOffsets_driver, changed, Reply.opens]
  | register plugin config => exact .inr ⟨rfl, rfl⟩
  | metrics => exact .inr ⟨rfl, rfl⟩

/-- A call that neither steps nor opens a source leaves the stream as it is. -/
theorem perform_kept (d : Driver ι) (h : Host π) {c : DriverCall π} (rest : c.isNext = false)
    (closed : (d.perform h c).1.opens = false) : ∃ registry extractors collector,
      (d.perform h c).2.1 =
        { d with engine := { d.engine with registry }, extractors, collector } := by
  have effect : Effect d (d.perform h c).2.1 := d.perform_effect h (by simp [rest])
  have same : (d.perform h c).2.1.state = d.state := by
    obtain ⟨opens, _⟩ | ⟨_, same⟩ := d.perform_state h c
    · cases closed.symm.trans opens
    · exact same
  generalize (d.perform h c).2.1 = d' at effect same
  cases effect with
  | kept registry extractors collector => exact ⟨registry, extractors, collector, rfl⟩
  | opened source platform idle => cases idle.symm.trans same.symm

/-- A call that opens a source starts it: the records of a file, or the source that a plugin returned
for one that it generates events for. -/
theorem perform_opened (d : Driver ι) (h : Host π) {c : DriverCall π}
    (opens : (d.perform h c).1.opens = true) :
    (d.perform h c).2.1.engine.current = none ∧
      ((∃ records, (d.perform h c).2.1.engine.source = some (.capture records)) ∨
        ∃ name params platform owner source state h', c = .openPlugin name params platform ∧
          d.engine.registry.find? name = some owner ∧ owner.manifest.generates = some source ∧
          h.openSource owner params = (.ok state, h') ∧
          (d.perform h c).2.1.engine.source = some (.plugin ⟨owner, source, state, []⟩)) := by
  obtain ⟨_, idle, _⟩ | ⟨closed, _⟩ := d.perform_state h c
  · cases c with
    | openCapture file =>
      obtain ⟨fault, _, same⟩ | ⟨g, started, same⟩ := openCapture_of_idle idle file
      · simp [perform, same, Reply.opens, Outcome.ofExcept] at opens
      · simp only [perform, same]
        obtain ⟨bytes, contents, _, _, rfl⟩ := Engine.openCapture_starts started
        exact ⟨rfl, .inl ⟨contents.records, rfl⟩⟩
    | openPlugin name params platform =>
      obtain ⟨fault, h', _, same⟩ | ⟨p, h', _, same⟩ | ⟨g, h', started, same⟩ :=
        openPlugin_of_idle idle h name params platform
      · simp [perform, same, Reply.opens] at opens
      · simp [perform, same, Reply.opens] at opens
      · simp only [perform, same]
        obtain ⟨owner, source, state, _, found, generates, answer, rfl⟩ :=
          Engine.openPlugin_starts started
        exact ⟨rfl, .inr ⟨name, params, platform, owner, source, state, _, rfl, found, generates,
          answer, rfl⟩⟩
    | _ => cases opens
  · cases closed.symm.trans opens

/-- Whatever a driver is asked for, it does not report that its engine is in a wrong state. -/
theorem Matched.perform_regular (matched : d.Matched) {c : DriverCall π}
    (failed : (d.perform h c).1.fault? = some fault) : fault.Regular := by
  cases c with
  | register plugin config =>
    have refused : (d.register h plugin config).1 = .failed fault :=
      Outcome.reason?_eq_some.mp failed
    simp only [register] at refused
    cases answer : (d.engine.register h plugin config).1 <;> rw [answer] at refused <;> cases refused
    simp [DriverFault.Regular]
  | openCapture file =>
    have refused : Outcome.ofExcept (d.openCapture file).1 = .failed fault :=
      Outcome.reason?_eq_some.mp failed
    cases answer : (d.openCapture file).1 with
    | ok _ =>
      rw [answer] at refused
      cases refused
    | error cause =>
      rw [answer] at refused
      cases refused
      cases state : d.state with
      | idle => exact (matched.openCapture_failed state answer).1.regular
      | capturing =>
        rw [openCapture_of_capturing state] at answer
        cases answer
        simp [DriverFault.Regular]
  | openPlugin name params platform =>
    have refused : (d.openPlugin h name params platform).1 = .failed fault :=
      Outcome.reason?_eq_some.mp failed
    cases state : d.state with
    | idle => exact (matched.openPlugin_failed state refused).1.regular
    | capturing =>
      rw [openPlugin_of_capturing state] at refused
      cases refused
      simp [DriverFault.Regular]
  | extractText field handle => exact extractText_regular (Outcome.reason?_eq_some.mp failed)
  | extractWithOffsets field handle =>
    exact extractWithOffsets_regular (Outcome.reason?_eq_some.mp failed)
  | addExtractors plugin source => cases failed
  | next => cases failed
  | metrics => cases failed

end Plugins

end Driver

namespace Driver
variable {d : Driver ι} {i : Nat} {log : List (Exchange π)}

/-- The log shows one open of a driver that captures, and none of one that is idle. -/
def Opened (i : Nat) (log : List (Exchange π)) (d : Driver ι) : Prop :=
  (opensBy i log).length = if d.state = .capturing then 1 else 0

theorem Opened.fresh {id : Nat} {hostname : Option String} {flags : MetricFlags}
    (unlogged : ∀ x ∈ log, x.driver ≠ i) : Opened (ι := ι) i log
      ⟨id, Engine.fresh hostname, Extractors.fresh, Collector.fresh flags, .idle⟩ := by
  have none : opensBy i log = [] := by
    apply List.filter_eq_nil_iff.mpr
    intro x logged
    simp [unlogged x logged]
  simp [Opened, none]

theorem Opened.other {x : Exchange π} (opened : d.Opened i log) (other : x.driver ≠ i) :
    d.Opened i (x :: log) := by
  have same : opensBy i (x :: log) = opensBy i log := by simp [opensBy, other]
  rw [Opened, same]
  exact opened

theorem Opened.perform [Plugin π ι] (opened : d.Opened i log) (h : Host π) (c : DriverCall π) :
    (d.perform h c).2.1.Opened i (⟨i, c, (d.perform h c).1, d.delivered h c⟩ :: log) := by
  obtain ⟨opens, idle, capturing⟩ | ⟨rest, same⟩ := d.perform_state h c
  · have before : (opensBy i log).length = 0 := by simpa [Opened, idle] using opened
    simp only [opensBy] at before
    simp [Opened, opensBy, opens, capturing, before]
  · have before : (opensBy i log).length = if d.state = .capturing then 1 else 0 := opened
    simp only [opensBy] at before
    simp [Opened, opensBy, rest, same, before]

theorem Opened.capturing (opened : d.Opened i log) (some : opensBy i log ≠ []) :
    d.state = .capturing := by
  have count : (opensBy i log).length = if d.state = .capturing then 1 else 0 := opened
  cases state : d.state with
  | capturing => rfl
  | idle =>
    have none : opensBy i log = [] := by simpa [state] using count
    contradiction

end Driver

/-- What the capture state of a driver tells, after so many calls have opened a source. -/
structure Driver.StateTells [Plugin π ι] (d : Driver ι) (opens : Nat) : Prop where
  source : d.state = .capturing ↔ d.engine.source.isSome = true
  opened : d.state = .capturing ↔ opens = 1
  unopened : d.state = .idle ↔ opens = 0
  /-- A second open is refused before the file or the plugin is looked at. -/
  again : d.state = .capturing →
    (∀ file, d.openCapture file = (.error (.invalidTransition .capturing .capturing), d)) ∧
    ∀ (h : Host π) name params platform, d.openPlugin h name params platform =
      (.failed (.invalidTransition .capturing .capturing), d, h)
  /-- A first open that fails or panics leaves the driver as it was. -/
  failed : d.state = .idle →
    (∀ file fault, (d.openCapture file).1 = .error fault →
      fault.OfOpening ∧ (d.openCapture file).2 = d) ∧
    (∀ (h : Host π) name params platform fault,
      (d.openPlugin h name params platform).1 = .failed fault →
        fault.OfOpening ∧ (d.openPlugin h name params platform).2.1 = d) ∧
    ∀ (h : Host π) name params platform panic,
      (d.openPlugin h name params platform).1 = .panicked panic →
        (d.openPlugin h name params platform).2.1 = d

namespace Process
variable [Plugin π ι] {p : Process π ι} {log : List (Exchange π)} {d : Driver ι} {i : Nat}

theorem Run.matched (run : Run p log) (there : p.driver? i = some d) : d.Matched := by
  refine run.driver_holds Driver.Matched ?_ ?_ there
  · intro id hostname flags
    simp [Driver.Matched, Engine.fresh]
  · intro d h c matched
    exact matched.perform h c

theorem Run.opened (run : Run p log) (there : p.driver? i = some d) : d.Opened i log := by
  refine Run.tracks Driver.Opened ?_ ?_ ?_ run there
  · intro i log id hostname flags unlogged
    exact .fresh unlogged
  · intro i log d h c opened
    exact opened.perform h c
  · intro i log d x other opened
    exact opened.other other

/-- In every state of a run, a driver captures exactly if its engine holds a source, and exactly if
one call has opened it; and no call ever reports an engine in a wrong state. -/
theorem Run.capture_states_agree (run : Run p log) :
    (∀ i d, p.driver? i = some d → d.StateTells (π := π) (opensBy i log).length) ∧
    ∀ x ∈ log, ∀ fault, x.reply.fault? = some fault → fault.Regular := by
  constructor
  · intro i d there
    have matched := run.matched there
    have count := run.opened there
    unfold Driver.Opened at count
    refine ⟨matched, ?_, ?_, ?_, ?_⟩
    · cases state : d.state <;> simp [count, state]
    · cases state : d.state <;> simp [count, state]
    · intro capturing
      exact ⟨Driver.openCapture_of_capturing capturing,
        Driver.openPlugin_of_capturing capturing⟩
    · intro idle
      exact ⟨fun _ _ => matched.openCapture_failed idle,
        fun _ _ _ _ _ => matched.openPlugin_failed idle,
        fun _ _ _ _ _ panicked => (Driver.openPlugin_panicked panicked).2⟩
  · intro x logged fault failed
    obtain ⟨newer, older, split⟩ := List.append_of_mem logged
    obtain ⟨q, d, before, there, reply, _⟩ := run.exchange split
    rw [reply] at failed
    exact (before.matched there).perform_regular failed

/-- A driver that captures ticks, after a single open, refuses to open a file that is not there. -/
theorem ticking_states_agree : ∃ d, ticking.1.driver? 0 = some d ∧ d.state = .capturing ∧
    (opensBy 0 ticking.2).length = 1 ∧
    d.openCapture (.error .notFound) = (.error (.invalidTransition .capturing .capturing), d) := by
  have ready : ∃ d ∈ ticking.1.driver? 0, d.state = .capturing := by decide +kernel
  obtain ⟨d, there, capturing⟩ := ready
  have tells := ticking_run.capture_states_agree.1 0 d there
  exact ⟨d, there, capturing, tells.opened.mp capturing, (tells.again capturing).1 _⟩

end Process

end EventProbe
