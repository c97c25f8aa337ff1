import EventProbe.Proofs.ParserDispatch
import EventProbe.Proofs.TerminalStatus

/-! What an engine counts. Every step adds to the counter of its answer and nothing else does, so the
counters of an engine are the numbers of answers of its life, over all its captures. The numbers of
events begin anew with each capture, and each event that is taken uses one up. -/
namespace EventProbe

variable [Plugin π ι]

/-- A plugin that is asked about the event says that it does not accept it. -/
def Arrival.refuses (a : Arrival π) (p : Handle) : Bool :=
  match (a.host.parse p a.event).1 with
  | .failed _ => true
  | _ => false

namespace Turn

def gives (s : Status) (t : Turn π ι) : Bool :=
  match t.reply with
  | .stepped (.ok status) => decide (status = s)
  | _ => false

def panics (t : Turn π ι) : Bool :=
  match t.reply with
  | .stepped (.error _) => true
  | _ => false

/-- Whether one of the plugins that were asked about the event of a step refused it. -/
def refused (t : Turn π ι) : Bool :=
  t.arrival.any fun a => (a.asked t.engine.registry.plugins).any a.refuses

end Turn

/-! ## One step -/

section Steps
variable {g g' : Engine ι} {h h' : Host π} {a : Arrival π} {plugins : List Handle} {t : Turn π ι}

/-- An event is refused by the one plugin that was asked last. -/
theorem Arrival.Fresh.offer_failed (fresh : a.Fresh h plugins) (houses : h.Houses plugins) :
    (∃ reason, (Engine.offer h a.event plugins).1 = .failed reason) ↔
      (a.asked plugins).any a.refuses = true := by
  induction plugins generalizing h with
  | nil => simp [Engine.offer, asked]
  | cons p rest ih =>
    have answer : (h.parse p a.event).1 = (a.host.parse p a.event).1 :=
      (List.forall_mem_cons.mp fresh).1
    cases reads : a.reads p with
    | false =>
      rw [offer_of_not_reads reads, asked_of_not_reads reads]
      exact ih (List.forall_mem_cons.mp fresh).2 houses.tail
    | true =>
      by_cases accepted : (h.parse p a.event).1 = .ok ()
      · have accepts := fresh.accepts_iff.mpr accepted
        have agrees : a.refuses p = false := by simp [Arrival.refuses, ← answer, accepted]
        have houses' := houses.tail.later (h.parse_continues p a.event).manifests
        rw [offer_of_accepts reads accepted, asked_of_accepts reads accepts, List.any_cons, agrees,
          Bool.false_or]
        exact ih (fresh.later houses) houses'
      · have stops := Bool.eq_false_iff.mpr fun accepts => accepted (fresh.accepts_iff.mp accepts)
        rw [offer_of_refuses reads accepted, asked_of_refuses reads stops]
        cases parsed : (h.parse p a.event).1 with
        | ok _ => exact absurd parsed accepted
        | failed reason | panicked panic => simp [Arrival.refuses, ← answer, parsed]

theorem Engine.start_endsWell (g : Engine ι) (source : Source ι) (platform : Option Platform) :
    (g.start source platform).EndsWell := by
  intro status ended
  cases ended

theorem Engine.perform_endsWell (ends : g.EndsWell) (h : Host π) (c : EngineCall π) :
    (g.perform h c).2.1.EndsWell := by
  cases c with
  | register plugin config => exact ends
  | openCapture file =>
    rcases g.openCapture_cases file with ⟨fault, refused⟩ | ⟨_, _, _, _, _, opened⟩
    · simp only [Engine.perform, refused]
      exact ends
    · simp only [Engine.perform, opened]
      exact g.start_endsWell _ _
  | openPlugin name params platform =>
    rcases g.openPlugin_cases h name params platform with
      ⟨_, kept⟩ | ⟨_, _, _, _, _, _, _, _, opened⟩
    · simp only [Engine.perform, kept]
      exact ends
    · simp only [Engine.perform, opened]
      exact g.start_endsWell _ _
  | next => exact (g.next_advances h).endsWell ends
  | stop | shutdown => exact ends

namespace Turn

/-- What an operation adds to the counters and to the number of the next event. -/
structure Counts (t : Turn π ι) : Prop where
  events : t.after.counters.events = t.engine.counters.events + if t.gives .ok then 1 else 0
  timeouts : t.after.counters.timeouts + (if t.refused then 1 else 0) =
    t.engine.counters.timeouts + if t.gives .timeout then 1 else 0
  drops : t.after.counters.drops = t.engine.counters.drops + if t.refused then 1 else 0
  answer : t.refused = true → t.gives .timeout = true
  rest : t.call.isNext = false → t.after.counters = t.engine.counters
  number : t.after.nextNum =
    if t.reply.opens then 0 else t.engine.nextNum + if t.arrival.isSome then 1 else 0
  taken : t.panics = false → (if t.arrival.isSome then 1 else 0) =
    (if t.gives .ok then 1 else 0) + if t.refused then 1 else 0
  delivers : t.gives .ok = true → ∃ e, t.after.current = some e ∧ e.num = t.engine.nextNum

/-- An operation that is no step counts nothing. -/
theorem counts_of_rest (rest : t.call.isNext = false) (quiet : ∀ result, t.reply ≠ .stepped result)
    (same : t.after.counters = t.engine.counters)
    (number : t.after.nextNum = if t.reply.opens then 0 else t.engine.nextNum) : t.Counts := by
  have gives : ∀ s, t.gives s = false := by
    intro s
    unfold gives
    split
    · rename_i answer
      exact absurd answer (quiet _)
    · rfl
  have refused : t.refused = false := by simp [Turn.refused, arrival_of_rest rest]
  constructor
  all_goals simp [gives, refused, same, number, arrival_of_rest rest]

/-- A step counts its answer, and an event that it drops. -/
theorem counts_next (houses : h.Houses g.registry.plugins) (ends : g.EndsWell) :
    Counts ⟨g, h, .next⟩ := by
  have step := g.next_advances h
  rcases stepped : g.next h with ⟨result, g', h'⟩
  have reply : reply ⟨g, h, .next⟩ = .stepped result := by simp [Turn.reply, Engine.perform, stepped]
  have after : after ⟨g, h, .next⟩ = g' := by simp [Turn.after, Engine.perform, stepped]
  have arrives : arrival ⟨g, h, .next⟩ = g.arrival h := rfl
  simp only [stepped] at step
  generalize g.delivery h = delivered at step
  obtain ⟨none, _⟩ | ⟨a, came, takes⟩ := step.takes
  · cases step with
    | @ended status told =>
      have terminal := ends status told
      have other : status ≠ .ok ∧ status ≠ .timeout := by
        constructor <;> rintro rfl <;> cases terminal
      constructor
      all_goals simp [gives, panics, refused, EngineReply.opens, reply, after, arrives, none, other]
    | closed | interrupted | timeout | eof | failed =>
      constructor
      all_goals simp [gives, panics, refused, EngineReply.opens, EngineCall.isNext, Engine.countTimeout,
        reply, after, arrives, none]
    | delivered unfinished opened pulled | refused unfinished opened pulled
    | parsePanicked unfinished opened pulled =>
      cases none.symm.trans (Engine.arrival_of_event unfinished opened pulled).1
  · -- An event is settled by the plugins that are asked about it.
    have settled := Arrival.Fresh.offer_failed (a := a) (fun _ _ => rfl)
      (houses.later takes.continues.manifests)
    have refusal : refused ⟨g, h, .next⟩ = (a.asked g.registry.plugins).any a.refuses := by
      rw [refused, arrives, came]
      rfl
    rcases offered : (Engine.offer a.host a.event g.registry.plugins).1 with _ | reason | panic
    all_goals simp only [offered, reduceCtorEq, exists_false, false_iff, Bool.not_eq_true] at settled
    · obtain ⟨rfl, current, counters⟩ := takes.accepted offered
      constructor
      all_goals simp [gives, panics, EngineReply.opens, EngineCall.isNext, reply, after, arrives, came,
        refusal, settled, current, counters, takes.used, takes.numbered]
    · obtain ⟨rfl, current, counters⟩ := takes.refused reason offered
      have settled := settled.mp ⟨reason, rfl⟩
      constructor
      all_goals simp [gives, panics, EngineReply.opens, EngineCall.isNext, reply, after, arrives, came,
        refusal, settled, counters, takes.used]
    · obtain ⟨rfl, current, counters⟩ := takes.panicked panic offered
      constructor
      all_goals simp [gives, panics, EngineReply.opens, EngineCall.isNext, reply, after, arrives, came,
        refusal, settled, counters, takes.used]

theorem counts (houses : t.host.Houses t.engine.registry.plugins) (ends : t.engine.EndsWell) :
    t.Counts := by
  obtain ⟨g, h, c⟩ := t
  cases c with
  | next => exact counts_next houses ends
  | register plugin config =>
    exact counts_of_rest rfl (fun _ answer => by cases answer) rfl rfl
  | openCapture file =>
    apply counts_of_rest rfl (fun _ answer => by cases answer)
    all_goals
      rcases g.openCapture_cases file with ⟨fault, refused⟩ | ⟨_, _, _, _, _, opened⟩
    all_goals simp_all [reply, after, Engine.perform, EngineReply.opens, Outcome.ofExcept, Engine.start]
  | openPlugin name params platform =>
    apply counts_of_rest rfl (fun _ answer => by cases answer)
    all_goals
      rcases g.openPlugin_cases h name params platform with
        ⟨refused, kept⟩ | ⟨_, _, _, _, _, _, _, _, opened⟩
    all_goals simp_all [reply, after, Engine.perform, EngineReply.opens, Engine.start]
  | stop | shutdown => exact counts_of_rest rfl (fun _ answer => by cases answer) rfl rfl

end Turn

end Steps

/-! ## Runs -/

section Runs
variable {g₀ g : Engine ι} {h₀ h : Host π} {turns older : List (Turn π ι)} {t : Turn π ι}

def sinceOpen (turns : List (Turn π ι)) : List (Turn π ι) :=
  turns.takeWhile (!·.reply.opens)

theorem sinceOpen_append {mid : List (Turn π ι)} (unopened : ∀ u ∈ mid, u.reply.opens = false) :
    sinceOpen (mid ++ older) = mid ++ sinceOpen older := by
  apply List.takeWhile_append_of_pos
  intro u between
  simp [unopened u between]

theorem exists_opening (opened : ∃ u ∈ turns, u.reply.opens = true) :
    ∃ opening before, turns = sinceOpen turns ++ opening :: before ∧ opening.reply.opens = true := by
  induction turns with
  | nil => simp at opened
  | cons u turns ih =>
    cases opens : u.reply.opens with
    | true => exact ⟨u, turns, by simp [sinceOpen, opens], opens⟩
    | false =>
      simp only [List.mem_cons, exists_eq_or_imp, opens, Bool.false_eq_true, false_or] at opened
      obtain ⟨opening, before, split, opens'⟩ := ih opened
      refine ⟨opening, before, ?_, opens'⟩
      simp only [sinceOpen, List.takeWhile_cons, opens, Bool.not_false, if_true, List.cons_append]
      exact congrArg (u :: ·) split

structure Counters.Grow (c c' : Counters) : Prop where
  events : c.events ≤ c'.events
  timeouts : c.timeouts ≤ c'.timeouts
  drops : c.drops ≤ c'.drops

/-- The counters and the number of the next event as they are told by the operations so far. -/
structure Engine.Tallied (g : Engine ι) (turns : List (Turn π ι)) : Prop where
  ends : g.EndsWell
  events : g.counters.events = turns.countP (·.gives .ok)
  timeouts : g.counters.timeouts + g.counters.drops = turns.countP (·.gives .timeout)
  drops : g.counters.drops = turns.countP (·.refused)
  number : g.nextNum = (sinceOpen turns).countP (·.arrival.isSome)

theorem Turn.Counts.tallied (counts : t.Counts) (tallied : t.engine.Tallied turns)
    (ends : t.after.EndsWell) : t.after.Tallied (t :: turns) where
  ends := ends
  events := by rw [counts.events, tallied.events, List.countP_cons]
  timeouts := by
    have before := tallied.timeouts
    have step := counts.timeouts
    rw [counts.drops, List.countP_cons]
    omega
  drops := by rw [counts.drops, tallied.drops, List.countP_cons]
  number := by
    rw [counts.number]
    cases opens : t.reply.opens with
    | true => simp [sinceOpen, opens]
    | false => simp [sinceOpen, opens, tallied.number, List.countP_cons]

theorem Turn.Counts.grow (counts : t.Counts) : t.engine.counters.Grow t.after.counters := by
  constructor
  · rw [counts.events]
    exact Nat.le_add_right _ _
  · have step := counts.timeouts
    cases refused : t.refused with
    | false => simp only [refused, Bool.false_eq_true, if_false] at step; omega
    | true => simp only [refused, counts.answer refused, if_true] at step; omega
  · rw [counts.drops]
    exact Nat.le_add_right _ _

theorem Turn.Counts.refused_of_ok (counts : t.Counts) (gives : t.gives .ok = true) :
    t.refused = false := by
  cases refused : t.refused with
  | false => rfl
  | true =>
    have timeout := counts.answer refused
    unfold Turn.gives at gives timeout
    split at gives <;> simp_all

theorem Turn.opens_of_gives {s : Status} (gives : t.gives s = true) : t.reply.opens = false := by
  unfold Turn.gives at gives
  split at gives
  · rename_i answer
    rw [answer]
    rfl
  · cases gives

/-- Without panics an event that is taken is delivered or dropped. -/
theorem countP_arrival (counts : ∀ u ∈ turns, u.Counts) (calm : ∀ u ∈ turns, u.panics = false) :
    turns.countP (·.arrival.isSome) = turns.countP (·.gives .ok) + turns.countP (·.refused) := by
  induction turns with
  | nil => rfl
  | cons u turns ih =>
    obtain ⟨here, counts⟩ := List.forall_mem_cons.mp counts
    obtain ⟨quiet, calm⟩ := List.forall_mem_cons.mp calm
    have taken := here.taken quiet
    have rest := ih counts calm
    simp only [List.countP_cons]
    omega

namespace Engine

theorem Run.tallied (run : Run g₀ h₀ g h turns) (houses : h₀.Houses g₀.registry.plugins)
    (new : g₀.Tallied ([] : List (Turn π ι))) : g.Tallied turns := by
  induction run with
  | start => exact new
  | elsewhere h' run later ih => exact ih
  | @call g h turns c run ih =>
    have counts : Turn.Counts ⟨g, h, c⟩ := Turn.counts (run.houses houses) ih.ends
    exact counts.tallied ih (Engine.perform_endsWell ih.ends h c)

/-- A step with an event comes after an operation that opened the source. -/
theorem Run.opened (run : Run g₀ h₀ t.engine t.host older) (closed : g₀.EndedWith .error)
    (gives : t.gives .ok = true) : ∃ u ∈ older, u.reply.opens = true := by
  apply Classical.byContradiction
  intro never
  have unopened : ∀ u ∈ older, u.reply.opens = false := by
    intro u logged
    cases opens : u.reply.opens with
    | false => rfl
    | true => exact absurd ⟨u, logged, opens⟩ never
  have told : t.Over .error := EndedWith.shows (run.shows closed unopened).1
  obtain ⟨g, h, c⟩ := t
  cases c with
  | next =>
    have answer := (told.answer rfl).1
    simp [Turn.gives, answer] at gives
  | _ => cases gives

theorem fresh_tallied (hostname : Option String) :
    (fresh hostname : Engine ι).Tallied ([] : List (Turn π ι)) := by
  constructor
  · intro status ended
    cases ended
  all_goals rfl

section Fresh
variable {hostname : Option String}

omit [Plugin π ι] in
theorem fresh_houses (hostname : Option String) (h₀ : Host π) :
    h₀.Houses (fresh hostname : Engine ι).registry.plugins :=
  ⟨.nil, by simp [fresh, Registry.empty]⟩

theorem Run.fresh_tallied (run : (fresh hostname).Run h₀ g h turns) : g.Tallied turns :=
  run.tallied (fresh_houses hostname h₀) (Engine.fresh_tallied hostname)

theorem Run.counts (run : (fresh hostname).Run h₀ g h turns) : ∀ t ∈ turns, t.Counts := by
  intro t logged
  obtain ⟨newer, older, rfl⟩ := List.append_of_mem logged
  have before := run.split.1
  exact Turn.counts (before.houses (fresh_houses hostname h₀)) before.fresh_tallied.ends

/-- The number of a delivered event: so many events were delivered or dropped in its capture before. -/
theorem Run.delivered_num {newer : List (Turn π ι)}
    (run : (fresh hostname).Run h₀ g h (newer ++ t :: older)) (calm : ∀ u ∈ older, u.panics = false)
    (gives : t.gives .ok = true) : ∃ e, t.after.current = some e ∧
      e.num = (sinceOpen older).countP (·.gives .ok) + (sinceOpen older).countP (·.refused) := by
  have before := run.split.1
  obtain ⟨e, current, num⟩ := (run.counts t (by simp)).delivers gives
  refine ⟨e, current, ?_⟩
  have since : ∀ u ∈ sinceOpen older, u ∈ older := fun u inside => List.takeWhile_subset _ inside
  rw [num, before.fresh_tallied.number]
  apply countP_arrival
  · intro u inside
    exact before.counts u (since u inside)
  · intro u inside
    exact calm u (since u inside)

/-- What the counters of an engine tell after any operations without panics: how many steps delivered an
event, how many gave none for now, and how many of these dropped one. They never fall, and only steps
change them. Within a capture an event has the number of those delivered or dropped before it, so from
one delivered event to the next the numbers leave out exactly the dropped ones. -/
theorem Run.counts_conserved (run : (fresh hostname).Run h₀ g h turns)
    (calm : ∀ t ∈ turns, t.panics = false) :
    g.counters.events = turns.countP (·.gives .ok) ∧
    g.counters.timeouts + g.counters.drops = turns.countP (·.gives .timeout) ∧
    g.counters.drops = turns.countP (·.refused) ∧
    (∀ t ∈ turns, t.engine.counters.Grow t.after.counters ∧
      (t.call.isNext = false → t.after.counters = t.engine.counters)) ∧
    (∀ newer t older, turns = newer ++ t :: older → t.gives .ok = true →
      ∃ opening before e, older = sinceOpen older ++ opening :: before ∧
        opening.reply.opens = true ∧ t.after.current = some e ∧
        e.num = (sinceOpen older).countP (·.gives .ok) + (sinceOpen older).countP (·.refused)) ∧
    ∀ newer t between u older e d, turns = newer ++ t :: (between ++ u :: older) →
      (∀ v ∈ between, v.reply.opens = false) → t.gives .ok = true → u.gives .ok = true →
      t.after.current = some e → u.after.current = some d →
      e.num = d.num + 1 + between.countP (·.gives .ok) + between.countP (·.refused) := by
  have tallied := run.fresh_tallied
  refine ⟨tallied.events, tallied.timeouts, tallied.drops, ?_, ?_, ?_⟩
  · intro t logged
    have counts := run.counts t logged
    exact ⟨counts.grow, counts.rest⟩
  · rintro newer t older rfl gives
    obtain ⟨e, current, num⟩ := run.delivered_num (fun u inside => calm u (by simp [inside])) gives
    obtain ⟨opening, before, split, opens⟩ :=
      exists_opening (run.split.1.opened (.inr ⟨rfl, rfl, rfl⟩) gives)
    exact ⟨opening, before, e, split, opens, current, num⟩
  · rintro newer t between u older e d rfl unopened gives gave current current'
    obtain ⟨e', now, num⟩ := run.delivered_num (fun v inside => calm v (by simp [inside])) gives
    obtain rfl : e' = e := Option.some.inj (now.symm.trans current)
    -- The earlier event, in the same run.
    have run' : (fresh hostname).Run h₀ g h ((newer ++ t :: between) ++ u :: older) := by simpa using run
    obtain ⟨d', then', num'⟩ := run'.delivered_num (fun v inside => calm v (by simp [inside])) gave
    obtain rfl : d' = d := Option.some.inj (then'.symm.trans current')
    have since : sinceOpen (between ++ u :: older) = between ++ u :: sinceOpen older := by
      rw [sinceOpen_append unopened]
      simp [sinceOpen, Turn.opens_of_gives gave]
    have kept : u.refused = false := (run.counts u (by simp)).refused_of_ok gave
    rw [num, since, num']
    simp only [List.countP_append, List.countP_cons, gave, kept, Bool.false_eq_true, if_true, if_false]
    omega

end Fresh

/-- Three letters, of which the second is refused, then a second capture of the same source. -/
def recapturing : Engine Scripted.Stream × Host Scripted × List (Turn Scripted Scripted.Stream) :=
  let script : Scripted := ⟨none, none, .labelled "", [], [], []⟩
  let letters : Batch := .events [⟨some 7, [97]⟩, ⟨some 8, [98]⟩, ⟨some 9, [99]⟩]
  (fresh none).play (Host.fresh .bare) [] [
    .register (Scripted.descriptor (Scripted.plain "source" .eventSourcing (some "letters")) none
      { script with steps := some [.batch letters, .batch .timeout] }) "",
    .register (Scripted.descriptor (Scripted.plain "picky" .eventParsing none) none
      { script with parsing := [([98], .fail "not this one")] }) "",
    .openPlugin "source" "" false, .next, .next, .next, .next, .next, .stop, .next,
    .openPlugin "source" "" false, .next, .next]

/-- The counters go on over both captures; in the first one, the refused letter leaves a gap. -/
theorem recapturing_counts_conserved :
    (∀ t ∈ recapturing.2.2, t.panics = false) ∧
      recapturing.1.counters.events = recapturing.2.2.countP (·.gives .ok) ∧
      recapturing.1.counters.timeouts + recapturing.1.counters.drops =
        recapturing.2.2.countP (·.gives .timeout) ∧
      recapturing.1.counters.drops = recapturing.2.2.countP (·.refused) ∧
      recapturing.1.counters = ⟨3, 1, 2⟩ ∧
      (recapturing.2.2.reverse.filter (·.gives .ok)).map (·.after.current.map Event.num) =
        [some 0, some 2, some 0] := by
  have run : (fresh none).Run (Host.fresh .bare) recapturing.1 recapturing.2.1 recapturing.2.2 :=
    Run.play .start _
  have calm : ∀ t ∈ recapturing.2.2, t.panics = false := by decide +kernel
  obtain ⟨events, timeouts, drops, -⟩ := run.counts_conserved calm
  exact ⟨calm, events, timeouts, drops, by decide +kernel, by decide +kernel⟩

end Engine

end Runs

end EventProbe
