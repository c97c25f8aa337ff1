import EventProbe.Proofs.CaptureState
import EventProbe.Proofs.EngineRuns
import EventProbe.Proofs.PluginDelivery

/-! Streams that are over stay over. An engine may tell the end of a stream because it remembers how
the stream ended, or because it has no source; either is left only by an open. -/
namespace EventProbe

/-- What an operation shows after a stream ended with a status. -/
structure Turn.Over [Plugin π ι] (s : Status) (t : Turn π ι) : Prop where
  answer : t.call.isNext = true → t.reply = .stepped (.ok s) ∧ t.after.current = none
  asks : ∀ c ∈ t.calls, c.action ≠ .nextBatch

namespace Engine

/-- A step of the engine answers with this status, for the stream ended so, or there is none. -/
def EndedWith (s : Status) (g : Engine ι) : Prop :=
  g.finished = some s ∨ g.finished = none ∧ g.source = none ∧ s = .error

variable [Plugin π ι] {g g' g₀ : Engine ι} {h h' h₀ : Host π} {s : Status}

namespace Advance

theorem endedWith (step : Advance g h e (.ok s) g' h') (terminal : s.isTerminal = true) :
    g'.EndedWith s := by
  cases step with
  | ended finished => exact .inl finished
  | closed finished closed => exact .inr ⟨finished, closed, rfl⟩
  | eof | failed => exact .inl rfl
  | timeout | delivered | refused => cases terminal

theorem barren (step : Advance g h e (.ok s) g' h') (terminal : s.isTerminal = true) :
    e = none := by
  cases step with
  | delivered => cases terminal
  | _ => rfl

end Advance

theorem EndedWith.next_eq (ended : g.EndedWith s) (h : Host π) :
    g.next h = (.ok s, { g with current := none }, h) := by
  obtain finished | ⟨finished, closed, rfl⟩ := ended
  · simp only [next, finished]
  · simp only [next, finished, closed]

theorem EndedWith.perform (ended : g.EndedWith s) (h : Host π) {c : EngineCall π}
    (unopened : (g.perform h c).1.opens = false) : (g.perform h c).2.1.EndedWith s := by
  cases c with
  | register plugin config => exact ended
  | openCapture file =>
    rcases g.openCapture_cases file with ⟨fault, refused⟩ | ⟨_, _, _, _, _, started⟩
    · simp only [Engine.perform, refused]
      exact ended
    · simp [Engine.perform, started, EngineReply.opens, Outcome.ofExcept] at unopened
  | openPlugin name params platform =>
    rcases g.openPlugin_cases h name params platform with
      ⟨_, kept⟩ | ⟨_, _, _, _, _, _, _, _, started⟩
    · simp only [Engine.perform, kept]
      exact ended
    · simp [Engine.perform, started, EngineReply.opens] at unopened
  | next =>
    simp only [Engine.perform, ended.next_eq h]
    exact ended
  | stop | shutdown =>
    obtain finished | ⟨finished, closed, rfl⟩ := ended
    · exact .inl finished
    · exact .inr ⟨finished, rfl, rfl⟩

theorem EndedWith.shows {t : Turn π ι} (ended : t.engine.EndedWith s) : t.Over s := by
  constructor
  · intro step
    obtain ⟨g, h, c⟩ := t
    cases c with
    | next =>
      have stays := EndedWith.next_eq ended h
      simp [Turn.reply, Turn.after, Engine.perform, stays]
    | _ => cases step
  · intro c made
    cases step : t.call.isNext with
    | false =>
      have manages := Turn.calls_manage step c made
      intro asks
      simp [asks, Action.manages] at manages
    | true =>
      have none : t.calls = [] := by
        apply Turn.calls_of_journal
        obtain ⟨g, h, c⟩ := t
        cases c with
        | next =>
          have stays := EndedWith.next_eq ended h
          simp [Turn.left, Engine.perform, stays]
        | _ => cases step
      simp [none] at made

theorem Run.shows {turns : List (Turn π ι)} (run : Run g₀ h₀ g h turns) (ended : g₀.EndedWith s)
    (unopened : ∀ t ∈ turns, t.reply.opens = false) :
    g.EndedWith s ∧ ∀ t ∈ turns, t.Over s := by
  induction run with
  | start => exact ⟨ended, by simp⟩
  | elsewhere h' run later ih => exact ih unopened
  | @call g h turns c run ih =>
    obtain ⟨closed, unopened⟩ := List.forall_mem_cons.mp unopened
    obtain ⟨before, shown⟩ := ih unopened
    constructor
    · exact before.perform h closed
    · refine List.forall_mem_cons.mpr ⟨?_, shown⟩
      exact EndedWith.shows before

/-- After a step that told the end of the stream, all operations show that it is over, as long as none
of them opens a source. -/
theorem Run.over_after {newer older : List (Turn π ι)} {t : Turn π ι}
    (run : Run g₀ h₀ g h (newer ++ t :: older)) (told : t.reply = .stepped (.ok s))
    (terminal : s.isTerminal = true) (unopened : ∀ u ∈ newer, u.reply.opens = false) :
    ∀ u ∈ newer, u.Over s := by
  obtain ⟨g₁, h₁, c⟩ := t
  have step : c = .next := by
    cases c <;> first | rfl | cases told
  subst step
  have answer : (g₁.next h₁).1 = .ok s := by
    simpa [Turn.reply, Engine.perform] using told
  have advance := g₁.next_advances h₁
  rw [answer] at advance
  have ended : (g₁.next h₁).2.1.EndedWith s := advance.endedWith terminal
  exact (run.split.2.shows ended unopened).2

end Engine

def Reply.status? : Reply → Option Status
  | .stepped (.ok (s, _)) => some s
  | _ => none

theorem Reply.status?_eq_some {s : Status} {r : Reply} (answer : r.status? = some s) :
    ∃ handle, r = .stepped (.ok (s, handle)) := by
  unfold status? at answer
  split at answer
  · cases answer
    exact ⟨_, rfl⟩
  · cases answer

namespace Driver
variable [Plugin π ι] {d : Driver ι} {i : Nat} {log : List (Exchange π)} {s : Status}

/-- A driver that captures, and whose stream ended with a status. -/
def Over (s : Status) (d : Driver ι) : Prop :=
  d.state = .capturing ∧ d.engine.finished = some s

theorem Over.next_eq (past : d.Over s) (h : Host π) :
    (d.next h).1 = .ok (s, ⟨d.id, none⟩) := by
  have barren : d.engine.delivery h = none := by simp only [Engine.delivery, past.2]
  have ended : d.engine.EndedWith s := .inl past.2
  rw [next_of_capturing past.1, ended.next_eq h, barren]
  rfl

omit [Plugin π ι] in
theorem Over.effect (past : d.Over s) (effect : Effect d d') : d'.Over s := by
  cases effect with
  | kept registry extractors collector => exact past
  | opened source platform idle closed => cases past.1.symm.trans idle

theorem Over.perform (past : d.Over s) (h : Host π) (c : DriverCall π) :
    (d.perform h c).2.1.Over s := by
  cases c with
  | next =>
    have ended : d.engine.EndedWith s := .inl past.2
    simp only [Driver.perform, next_of_capturing past.1, ended.next_eq h]
    exact past
  | _ => exact past.effect (d.perform_effect h (by simp [DriverCall.isNext]))

theorem Matched.over_next (matched : d.Matched) (capturing : d.state = .capturing) {h : Host π}
    {handle : EventHandle} (told : (d.next h).1 = .ok (s, handle)) (terminal : s.isTerminal = true) :
    handle = ⟨d.id, none⟩ ∧ (d.next h).2.1.Over s := by
  have advance := d.engine.next_advances h
  have closed := advance.source_isSome
  rw [next_of_capturing capturing] at told ⊢
  rcases answer : (d.engine.next h).1 with panic | status
  · rw [answer] at told
    cases told
  · rw [answer] at told advance
    obtain ⟨rfl, rfl⟩ : status = s ∧ _ = handle := Prod.mk.inj (Except.ok.inj told)
    refine ⟨?_, capturing, ?_⟩
    · rw [advance.barren terminal]
      rfl
    · obtain finished | ⟨_, none, _⟩ := advance.endedWith terminal
      · exact finished
      · have opened := matched.mp capturing
        rw [none, opened] at closed
        cases closed

/-- A step in the log that found the end of the stream of an opened source. -/
structure Told (i : Nat) (s : Status) (x : Exchange π) (older : List (Exchange π)) : Prop where
  own : x.driver = i
  step : x.call.isNext = true
  status : x.reply.status? = some s
  terminal : s.isTerminal = true
  opened : opensBy i older ≠ []

/-- If the log shows the end of the stream, the driver remembers it. -/
structure Remembers (i : Nat) (log : List (Exchange π)) (d : Driver ι) : Prop where
  matched : d.Matched
  opened : d.Opened i log
  ended : ∀ newer x older s, log = newer ++ x :: older → Told i s x older → d.Over s

theorem Remembers.perform (remembers : d.Remembers i log) (h : Host π) (c : DriverCall π) :
    (d.perform h c).2.1.Remembers i (⟨i, c, (d.perform h c).1, d.delivered h c⟩ :: log) where
  matched := remembers.matched.perform h c
  opened := remembers.opened.perform h c
  ended newer x older s split told := by
    cases newer with
    | cons y newer =>
      obtain ⟨_, earlier⟩ := List.cons.inj split
      exact (remembers.ended newer x older s earlier told).perform h c
    | nil =>
      obtain ⟨rfl, rfl⟩ := List.cons.inj split
      cases c with
      | next =>
        obtain ⟨handle, reply⟩ := Reply.status?_eq_some told.status
        have answer : (d.next h).1 = .ok (s, handle) := Reply.stepped.inj reply
        have capturing := remembers.opened.capturing told.opened
        exact (remembers.matched.over_next capturing answer told.terminal).2
      | _ => cases told.step

omit [Plugin π ι] in
theorem Remembers.other {x : Exchange π} (remembers : d.Remembers i log) (other : x.driver ≠ i) :
    d.Remembers i (x :: log) where
  matched := remembers.matched
  opened := remembers.opened.other other
  ended newer y older s split told := by
    cases newer with
    | cons z newer => exact remembers.ended newer y older s (List.cons.inj split).2 told
    | nil =>
      obtain ⟨rfl, _⟩ := List.cons.inj split
      exact absurd told.own other

end Driver

namespace Process
variable [Plugin π ι] {p : Process π ι} {log : List (Exchange π)} {d : Driver ι} {i : Nat}

theorem Run.remembers (run : Run p log) (there : p.driver? i = some d) : d.Remembers i log := by
  refine Run.tracks Driver.Remembers ?_ ?_ ?_ run there
  · intro i log id hostname flags unlogged
    refine ⟨by simp [Driver.Matched, Engine.fresh], .fresh unlogged, ?_⟩
    intro newer x older s split told
    have logged : x ∈ log := by simp [split]
    exact absurd told.own (unlogged x logged)
  · intro i log d h c remembers
    exact remembers.perform h c
  · intro i log d x other remembers
    exact remembers.other other

/-- After a step that found the end of its stream, a driver tells it in every step. -/
theorem Run.tells_again {newer older : List (Exchange π)} {x y : Exchange π} {s : Status}
    (run : Run p (newer ++ x :: older)) (told : Driver.Told i s x older) (later : y ∈ newer)
    (own : y.driver = i) (step : y.call.isNext = true) :
    y.reply = .stepped (.ok (s, ⟨i + 1, none⟩)) := by
  obtain ⟨after, between, rfl⟩ := List.append_of_mem later
  have split : after ++ y :: between ++ x :: older = after ++ y :: (between ++ x :: older) := by simp
  obtain ⟨q, d, before, there, reply, _⟩ := run.exchange split
  rw [own] at there
  have ended := (before.remembers there).ended between x older s rfl told
  have id := (before.sound.tracked i d there).id
  cases call : y.call with
  | next =>
    rw [reply, call]
    simp only [Driver.perform, ended.next_eq, id]
  | _ => simp [call, DriverCall.isNext] at step

/-- The step that found the end of the stream gave out no event. -/
theorem Run.told_null {newer older : List (Exchange π)} {x : Exchange π} {s : Status}
    (run : Run p (newer ++ x :: older)) (told : Driver.Told i s x older) :
    x.reply = .stepped (.ok (s, ⟨i + 1, none⟩)) := by
  obtain ⟨handle, answer⟩ := Reply.status?_eq_some told.status
  obtain ⟨q, d, before, there, reply, _⟩ := run.exchange rfl
  rw [told.own] at there
  have id := (before.sound.tracked i d there).id
  have capturing := (before.opened there).capturing told.opened
  cases call : x.call with
  | next =>
    rw [answer, call] at reply
    have stepped := Reply.stepped.inj reply
    have null := ((before.matched there).over_next capturing stepped.symm told.terminal).1
    rw [answer, null, id]
  | _ =>
    have step := told.step
    simp [call, DriverCall.isNext] at step

end Process

/-- The end of a stream is told for ever. On an engine, every step tells it and no source is asked for
events, whatever is called, until an open succeeds. A driver opens one source, and tells its end with
the handle of no event in every step from the first on. -/
theorem terminal_statuses_stick (π ι : Type) [Plugin π ι] :
    (∀ (g₀ g : Engine ι) (h₀ h : Host π) (newer older : List (Turn π ι)) (t : Turn π ι) (s : Status),
      g₀.Run h₀ g h (newer ++ t :: older) → t.reply = .stepped (.ok s) → s.isTerminal = true →
      (∀ u ∈ newer, u.reply.opens = false) → ∀ u ∈ newer, u.Over s) ∧
    ∀ (p : Process π ι) (newer older : List (Exchange π)) (x : Exchange π) (i : Nat) (s : Status),
      Process.Run p (newer ++ x :: older) → Driver.Told i s x older →
      x.reply = .stepped (.ok (s, ⟨i + 1, none⟩)) ∧
      ∀ y ∈ newer, y.driver = i → y.call.isNext = true →
        y.reply = .stepped (.ok (s, ⟨i + 1, none⟩)) := by
  constructor
  · intro g₀ g h₀ h newer older t s run told terminal unopened
    exact run.over_after told terminal unopened
  · intro p newer older x i s run told
    refine ⟨run.told_null told, ?_⟩
    intro y later own step
    exact run.tells_again told later own step

/-- A source that fails before it yields an event stays failed after it is closed and another one is not
found; a driver without ticks tells the end again after it was asked for metrics. -/
theorem ended_streams_stay :
    let source := Engine.playing [.failed "gone", .events [⟨none, [97]⟩]]
    let opened := source.1.play source.2 [] [.openPlugin "scripted" "" false]
    let t : Turn Scripted Scripted.Stream := ⟨opened.1, opened.2.1, .next⟩
    let turns := (t.after.play t.left [] [.next, .stop, .openPlugin "other" "" false, .next]).2.2
    let ticks : Process Bundled BundledSource := Process.create ⟨Host.fresh .bare, []⟩ .default
    let log := (ticks.play [] [(0, .register Bundled.testSource "0"),
      (0, .openPlugin "test_source" "" false), (0, .next), (0, .metrics), (0, .next)]).2
    (∀ u ∈ turns, u.Over .error) ∧
      ∀ y ∈ log.take 2, y.call.isNext = true → y.reply = .stepped (.ok (.eof, ⟨1, none⟩)) := by
  intro source opened t turns ticks log
  constructor
  · have begun : source.1.Run source.2 opened.1 opened.2.1 opened.2.2 := .play .start _
    have run := (begun.call .next).play [.next, .stop, .openPlugin "other" "" false, .next]
    have told : t.reply = .stepped (.ok .error) := rfl
    have unopened : ∀ u ∈ turns, u.reply.opens = false := by decide +kernel
    exact (terminal_statuses_stick Scripted Scripted.Stream).1 _ _ _ _ turns opened.2.2 t _ run told
      rfl unopened
  · let x := log.get ⟨2, by decide +kernel⟩
    have split : log = log.take 2 ++ x :: log.drop 3 := by
      simp [x]
    have run : Process.Run (ticks.play [] _).1 log := .play (.create .default (.start .bare)) _
    have told : Driver.Told 0 .eof x (log.drop 3) :=
      ⟨by decide +kernel, by decide +kernel, by decide +kernel, rfl,
        List.ne_nil_of_length_pos (by decide +kernel)⟩
    have own : ∀ y ∈ log.take 2, y.driver = 0 := by decide +kernel
    rw [split] at run
    have stays := (terminal_statuses_stick Bundled BundledSource).2 _ _ _ _ _ _ run told
    intro y later step
    exact stays.2 y later (own y later) step

end EventProbe
