import EventProbe.Proofs.CaptureState
import EventProbe.Proofs.ParserDispatch

/-! The queue of events behind a stream. The events that wait in a source, followed by those that it
fetches while it is stepped, are those that the steps take followed by those that still wait, whatever
becomes of the events that are taken. -/
namespace EventProbe

/-- An event that waits in a source. If it has no time, it gets that of the step that takes it. -/
structure Waiting where
  ts : Option Nat
  source : String
  eventType : Nat
  data : List UInt8
  plugin : Option Handle
  deriving DecidableEq, Repr

def Waiting.raw (w : Waiting) (now : Nat) : RawEvent :=
  ⟨w.ts.getD now, w.source, w.eventType, w.data, w.plugin⟩

def Capture.Record.waits (r : Capture.Record) : Waiting :=
  ⟨some r.ts, r.source, r.eventType, Utf8.encode r.data, none⟩

def Handle.waits (owner : Handle) (source : String) (e : BatchEvent) : Waiting :=
  ⟨e.ts, source, pluginEventType, e.data, some owner⟩

def Source.waiting : Source ι → List Waiting
  | .capture records => records.map Capture.Record.waits
  | .plugin stream => stream.pending.map (stream.owner.waits stream.source)

section Queues
variable [Plugin π ι]

/-- The events of the batch that a source without waiting events asks for. -/
def Source.fetched (s : Source ι) (h : Host π) : List Waiting :=
  match s with
  | .capture _ => []
  | .plugin stream =>
    match stream.pending, (h.nextBatch stream.owner stream.state).1 with
    | [], .ok (.events list) => list.map (stream.owner.waits stream.source)
    | _, _ => []

/-- A source gives the first event of its queue; if there is none, it gives no event. -/
inductive Source.Pulls (s : Source ι) (h : Host π) (result : Except Panic Pulled)
    (s' : Source ι) : Prop where
  | first (w : Waiting) : s.waiting ++ s.fetched h = w :: s'.waiting →
      result = .ok (.event (w.raw h.now)) → Pulls s h result s'
  | empty : s.waiting ++ s.fetched h = [] → s'.waiting = [] →
      (∀ raw, result ≠ .ok (.event raw)) → Pulls s h result s'

theorem Source.pulls (s : Source ι) (h : Host π) : s.Pulls h (s.pull h).1 (s.pull h).2.1 := by
  cases s with
  | capture records =>
    cases records with
    | nil => exact .empty rfl rfl (by simp [pull])
    | cons r rest => exact .first r.waits (by simp [waiting, fetched, pull]) rfl
  | plugin stream =>
    obtain ⟨owner, source, state, pending⟩ := stream
    cases pending with
    | cons e rest =>
      exact .first (owner.waits source e) (by simp [waiting, fetched, pull, PluginStream.pull]) rfl
    | nil =>
      have now := (h.nextBatch_continues owner state).now
      rcases asked : h.nextBatch owner state with ⟨batch, state', h'⟩
      simp only [asked] at now
      simp only [pull, PluginStream.pull, asked]
      rcases batch with p | (list | _ | _ | reason)
      · exact .empty (by simp [waiting, fetched, asked]) rfl (by simp)
      · cases list with
        | nil => exact .empty (by simp [waiting, fetched, asked]) rfl (by simp)
        | cons e rest =>
          refine .first (owner.waits source e) (by simp [waiting, fetched, asked]) ?_
          simp [PluginStream.raw, Waiting.raw, Handle.waits, now]
      all_goals exact .empty (by simp [waiting, fetched, asked]) rfl (by simp)

namespace Engine
variable {g g' : Engine ι} {h h' : Host π}

omit [Plugin π ι] in
def waiting (g : Engine ι) : List Waiting :=
  match g.source with
  | some s => s.waiting
  | none => []

def fetched (g : Engine ι) (h : Host π) : List Waiting :=
  match g.finished, g.source with
  | none, some s => s.fetched h
  | _, _ => []

def taken (g : Engine ι) (h : Host π) : Option Waiting :=
  match g.finished, g.source with
  | none, some s => (s.waiting ++ s.fetched h).head?
  | _, _ => none

/-- A step takes the first event of the queue, under the next number, and leaves the rest. -/
structure Moves (g : Engine ι) (h : Host π) (g' : Engine ι) : Prop where
  order : g.waiting ++ g.fetched h = (g.taken h).toList ++ g'.waiting
  event : (g.arrival h).map Arrival.event = (g.taken h).map fun w => g.number (w.raw h.now)
  used : g'.nextNum = g.nextNum + (g.taken h).toList.length

theorem Moves.of_event {s s' : Source ι} (finished : g.finished = none) (opened : g.source = some s)
    (pulled : s.pull h = (.ok (.event raw), s', h')) (left : g'.source = some s')
    (used : g'.nextNum = g.nextNum + 1) : g.Moves h g' := by
  have arrives := (arrival_of_event finished opened pulled).1
  have pulls := s.pulls h
  rw [pulled] at pulls
  cases pulls with
  | first w queue gives =>
    cases gives
    have takes : g.taken h = some w := by simp only [taken, finished, opened, queue, List.head?_cons]
    constructor
    · simp only [waiting, fetched, finished, opened, left, queue, takes]
      rfl
    · rw [arrives, takes]
      rfl
    · rw [used, takes]
      rfl
  | empty queue left none => exact absurd rfl (none raw)

theorem Moves.of_none {s s' : Source ι} (finished : g.finished = none) (opened : g.source = some s)
    (pulled : s.pull h = (result, s', h')) (barren : ∀ raw, result ≠ .ok (.event raw))
    (left : g'.source = some s') (same : g'.nextNum = g.nextNum) : g.Moves h g' := by
  have pulls := s.pulls h
  rw [pulled] at pulls
  cases pulls with
  | first w queue gives => exact absurd gives (barren _)
  | empty queue rest none =>
    have takes : g.taken h = .none := by simp only [taken, finished, opened, queue, List.head?_nil]
    have arrives : g.arrival h = .none := by
      simp only [arrival, finished, opened, pulled]
      split
      · rename_i raw _ _ answer
        cases answer
        exact absurd rfl (barren raw)
      · rfl
    constructor
    · simp only [waiting, fetched, finished, opened, left, queue, takes, rest]
      rfl
    · rw [arrives, takes]
      rfl
    · rw [same, takes]
      rfl

theorem Advance.moves (step : Advance g h e result g' h') : g.Moves h g' := by
  cases step with
  | ended finished => constructor <;> simp [fetched, taken, arrival, waiting, finished]
  | closed finished closed => constructor <;> simp [fetched, taken, arrival, waiting, finished, closed]
  | interrupted finished opened pulled | timeout finished opened pulled | eof finished opened pulled
  | failed finished opened pulled => exact .of_none finished opened pulled (by simp) rfl rfl
  | delivered finished opened pulled | refused finished opened pulled
  | parsePanicked finished opened pulled => exact .of_event finished opened pulled rfl rfl

end Engine

namespace Driver

/-- A state in which a driver is asked for the next event. -/
structure Step (π ι : Type) where
  driver : Driver ι
  host : Host π

namespace Step

def fetched (s : Step π ι) : List Waiting :=
  s.driver.engine.fetched s.host

def taken (s : Step π ι) : Option Waiting :=
  s.driver.engine.taken s.host

def arrival (s : Step π ι) : Option (Arrival π) :=
  s.driver.engine.arrival s.host

def answer (s : Step π ι) : Except Panic (Status × EventHandle) :=
  (s.driver.next s.host).1

def current (s : Step π ι) : Option Event :=
  (s.driver.next s.host).2.1.engine.current

/-- What the parsing plugins make of an event that the step took. -/
def verdict (s : Step π ι) (a : Arrival π) : Outcome String Unit :=
  (Engine.offer a.host a.event s.driver.engine.registry.plugins).1

/-- A step delivers the event that it takes, unless a parsing plugin refuses it or panics. -/
structure Answers (s : Step π ι) : Prop where
  event : s.arrival.map Arrival.event =
    s.taken.map fun w => s.driver.engine.number (w.raw s.host.now)
  accepted : ∀ a, s.arrival = some a → s.verdict a = .ok () →
    s.answer = .ok (.ok, ⟨s.driver.id, some a.event.num⟩) ∧ s.current = some a.event
  refused : ∀ a reason, s.arrival = some a → s.verdict a = .failed reason →
    s.answer = .ok (.timeout, ⟨s.driver.id, none⟩) ∧ s.current = none
  panicked : ∀ a panic, s.arrival = some a → s.verdict a = .panicked panic →
    s.answer = .error panic ∧ s.current = none
  barren : s.arrival = none → s.current = none

end Step

def after (d : Driver ι) : List (Host π × DriverCall π) → Driver ι
  | [] => d
  | (h, c) :: rest => after (d.perform h c).2.1 rest

def steps (d : Driver ι) : List (Host π × DriverCall π) → List (Step π ι)
  | [] => []
  | (h, c) :: rest =>
    let later := steps (d.perform h c).2.1 rest
    if c.isNext then ⟨d, h⟩ :: later else later

/-- What a driver does with its stream in calls: the events that waited and those that were fetched
are taken in order, each once, under consecutive numbers, or wait still. -/
structure Streams (d : Driver ι) (calls : List (Host π × DriverCall π)) : Prop where
  capturing : (d.after calls).state = .capturing
  order : d.engine.waiting ++ (d.steps calls).flatMap Step.fetched =
    (d.steps calls).filterMap Step.taken ++ (d.after calls).engine.waiting
  numbers : ((d.steps calls).filterMap Step.arrival).map (·.event.num) =
    List.range' d.engine.nextNum ((d.steps calls).filterMap Step.taken).length
  answers : ∀ s ∈ d.steps calls, s.Answers

variable {d d' : Driver ι} {h : Host π}

theorem answers (capturing : d.state = .capturing) (h : Host π) : Step.Answers ⟨d, h⟩ := by
  have step := d.engine.next_advances h
  have answer : Step.answer ⟨d, h⟩ = (d.engine.next h).1.map fun status =>
      (status, ⟨d.id, (d.engine.delivery h).map Event.num⟩) := by
    simp only [Step.answer, next_of_capturing capturing]
  have current : Step.current ⟨d, h⟩ = (d.engine.next h).2.1.current := by
    simp only [Step.current, next_of_capturing capturing]
  have delivers : (d.engine.next h).2.1.current = d.engine.delivery h := step.current_eq
  obtain ⟨nothing, unset, _⟩ | ⟨a, took, takes⟩ := step.takes
  · have none : ∀ a, Step.arrival ⟨d, h⟩ ≠ some a := by
      intro a arrives
      cases nothing.symm.trans arrives
    exact ⟨step.moves.event, fun a took => absurd took (none a),
      fun a _ took => absurd took (none a), fun a _ took => absurd took (none a),
      fun _ => current.trans unset⟩
  · have same : ∀ b, Step.arrival ⟨d, h⟩ = some b → b = a := by
      intro b arrives
      exact Option.some.inj (arrives.symm.trans took)
    refine ⟨step.moves.event, ?_, ?_, ?_, ?_⟩
    · intro b arrives accepted
      cases same b arrives
      obtain ⟨ok, now, _⟩ := takes.accepted accepted
      rw [answer, current, ok, ← delivers, now]
      exact ⟨rfl, rfl⟩
    · intro b reason arrives refused
      cases same b arrives
      obtain ⟨timeout, now, _⟩ := takes.refused reason refused
      rw [answer, current, timeout, ← delivers, now]
      exact ⟨rfl, rfl⟩
    · intro b panic arrives panicked
      cases same b arrives
      obtain ⟨error, now, _⟩ := takes.panicked panic panicked
      rw [answer, current, error, now]
      exact ⟨rfl, rfl⟩
    · intro nothing
      cases nothing.symm.trans took

/-- A call other than a step leaves the stream of a driver that captures as it is. -/
theorem perform_stream (capturing : d.state = .capturing) (h : Host π) {c : DriverCall π}
    (rest : c.isNext = false) :
    (d.perform h c).2.1.state = .capturing ∧ (d.perform h c).2.1.engine.waiting = d.engine.waiting ∧
      (d.perform h c).2.1.engine.nextNum = d.engine.nextNum := by
  have effect : Effect d (d.perform h c).2.1 := d.perform_effect h (by simp [rest])
  generalize (d.perform h c).2.1 = d' at effect
  cases effect with
  | kept registry extractors collector => exact ⟨capturing, rfl, rfl⟩
  | opened source platform idle => cases idle.symm.trans capturing

theorem next_stream (capturing : d.state = .capturing) (h : Host π) {c : DriverCall π}
    (step : c.isNext = true) :
    (d.perform h c).2.1.state = .capturing ∧ d.engine.Moves h (d.perform h c).2.1.engine := by
  cases c with
  | next =>
    simp only [perform, next_of_capturing capturing]
    exact ⟨capturing, (d.engine.next_advances h).moves⟩
  | _ => cases step

theorem streams (capturing : d.state = .capturing) (calls : List (Host π × DriverCall π)) :
    d.Streams calls := by
  induction calls generalizing d with
  | nil => exact ⟨capturing, by simp [steps, after], by simp [steps], by simp [steps]⟩
  | cons call rest ih =>
    obtain ⟨h, c⟩ := call
    cases step : c.isNext with
    | false =>
      obtain ⟨capturing', waiting, nextNum⟩ := perform_stream capturing h step
      have later := ih capturing'
      have same : d.steps ((h, c) :: rest) = (d.perform h c).2.1.steps rest := by
        simp [steps, step]
      constructor
      · exact later.capturing
      · rw [same, ← waiting]
        exact later.order
      · rw [same, ← nextNum]
        exact later.numbers
      · rw [same]
        exact later.answers
    | true =>
      obtain ⟨capturing', moves⟩ := next_stream capturing h step
      have later := ih capturing'
      have same : d.steps ((h, c) :: rest) = ⟨d, h⟩ :: (d.perform h c).2.1.steps rest := by
        simp [steps, step]
      refine ⟨later.capturing, ?_, ?_, ?_⟩
      · rw [same, List.flatMap_cons, List.filterMap_cons, ← List.append_assoc]
        have first : d.engine.waiting ++ Step.fetched ⟨d, h⟩ =
            (Step.taken ⟨d, h⟩).toList ++ (d.perform h c).2.1.engine.waiting := moves.order
        rw [first, List.append_assoc, later.order]
        cases Step.taken ⟨d, h⟩ <;> rfl
      · have event : (Step.arrival ⟨d, h⟩).map Arrival.event =
            (Step.taken ⟨d, h⟩).map fun w => d.engine.number (w.raw h.now) := moves.event
        have used : (d.perform h c).2.1.engine.nextNum =
            d.engine.nextNum + (Step.taken ⟨d, h⟩).toList.length := moves.used
        have numbers := later.numbers
        rw [same, List.filterMap_cons, List.filterMap_cons]
        cases takes : Step.taken ⟨d, h⟩ with
        | none =>
          rw [takes] at event used
          rw [Option.map_eq_none_iff.mp event]
          rw [used] at numbers
          exact numbers
        | some w =>
          rw [takes] at event used
          obtain ⟨a, arrives, numbered⟩ := Option.map_eq_some_iff.mp event
          rw [arrives]
          rw [used] at numbers
          simp only [List.map_cons, List.length_cons, List.range'_succ, numbered]
          exact congrArg (d.engine.nextNum :: ·) numbers
      · rw [same]
        exact List.forall_mem_cons.mpr ⟨answers capturing h, later.answers⟩

end Driver

end Queues

end EventProbe
