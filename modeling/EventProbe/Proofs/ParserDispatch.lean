import EventProbe.Plugins.Scripted
import EventProbe.Proofs.PluginSlots

/-! Which events the parsing plugins are shown. A step shows the event that it took from the source to
the plugins that parse events of its source, in the order of their registration, until one refuses it.
A plugin answers as it would have answered at the start, since those asked before it are others. -/
namespace EventProbe

def Handle.parses (p : Handle) (source : String) : Bool :=
  p.manifest.can .eventParsing && p.manifest.reads source

def Handle.parsing (p : Handle) (e : Event) : Call :=
  ⟨p.slot, p.name, .parse e⟩

def Action.parsed? : Action → Option Event
  | .parse e => some e
  | _ => none

def Action.asksForEvents : Action → Bool
  | .nextBatch => true
  | _ => false

def Handle.seen (p : Handle) (calls : List Call) : List Event :=
  calls.filterMap fun c => if c.slot = p.slot then c.action.parsed? else none

/-! ## One event -/

/-- An event that a step took from the source, and the process when the plugins are asked. -/
structure Arrival (π : Type) where
  event : Event
  host : Host π

section Offers
variable [Plugin π ι]

namespace Arrival

/-- Whether a plugin is asked about the event if no other refuses it. -/
def reads (a : Arrival π) (p : Handle) : Bool :=
  p.parses a.event.source

def accepts (a : Arrival π) (p : Handle) : Bool :=
  (a.host.parse p a.event).1 = .ok ()

/-- The event reaches a plugin that was registered after these. -/
def Reaches (a : Arrival π) (before : List Handle) (p : Handle) : Prop :=
  a.reads p = true ∧ ∀ q ∈ before, a.reads q = true → a.accepts q = true

instance (a : Arrival π) (before : List Handle) (p : Handle) : Decidable (a.Reaches before p) :=
  inferInstanceAs (Decidable (_ ∧ _))

/-- The plugins that are asked: those that read the event, up to the first that refuses it. -/
def asked (a : Arrival π) (plugins : List Handle) : List Handle :=
  let readers := plugins.filter a.reads
  readers.takeWhile a.accepts ++ (readers.dropWhile a.accepts).take 1

end Arrival

section Parsing
variable {h h' : Host π} {p q : Handle} {e : Event} {plugins rest : List Handle}

theorem Host.Holds.journal_parse (holds : h.Holds p) (e : Event) :
    (h.parse p e).2.journal.toList = h.journal.toList ++ [p.parsing e] := by
  unfold Host.Holds at holds
  rw [List.getElem?_map, Option.map_eq_some_iff] at holds
  obtain ⟨s, found, manifest⟩ := holds
  simp [Host.parse, Host.call, found, Host.record, manifest, Handle.parsing, Handle.name]

theorem Host.parse_other (h : Host π) (ne : p.slot ≠ q.slot) (e e' : Event) :
    ((h.parse p e).2.parse q e').1 = (h.parse q e').1 :=
  Host.call_answer (h.call_other ne _ _ _) _ _ _

end Parsing

namespace Arrival
variable {a : Arrival π} {h : Host π} {p : Handle} {plugins rest before after : List Handle}

theorem reaches_nil : a.Reaches [] p ↔ a.reads p = true := by
  simp [Reaches]

theorem reaches_cons {q : Handle} :
    a.Reaches (q :: before) p ↔ (a.reads q = true → a.accepts q = true) ∧ a.Reaches before p := by
  simp [Reaches, and_left_comm]

theorem asked_of_not_reads (other : a.reads p = false) : a.asked (p :: rest) = a.asked rest := by
  simp [asked, other]

theorem asked_of_accepts (reads : a.reads p = true) (accepts : a.accepts p = true) :
    a.asked (p :: rest) = p :: a.asked rest := by
  simp [asked, reads, accepts]

theorem asked_of_refuses (reads : a.reads p = true) (refuses : a.accepts p = false) :
    a.asked (p :: rest) = [p] := by
  simp [asked, reads, refuses]

/-! What an event does at the first of the plugins that it is shown to. -/

theorem offer_of_not_reads (other : a.reads p = false) (h : Host π) (rest : List Handle) :
    Engine.offer h a.event (p :: rest) = Engine.offer h a.event rest := by
  have skipped : (p.manifest.can .eventParsing && p.manifest.reads a.event.source) = false := other
  rw [Engine.offer, skipped]
  rfl

theorem offer_of_accepts (reads : a.reads p = true) (accepted : (h.parse p a.event).1 = .ok ())
    (rest : List Handle) :
    Engine.offer h a.event (p :: rest) = Engine.offer (h.parse p a.event).2 a.event rest := by
  have meant : (p.manifest.can .eventParsing && p.manifest.reads a.event.source) = true := reads
  rcases parsed : h.parse p a.event with ⟨answer, h'⟩
  rw [parsed] at accepted
  cases accepted
  rw [Engine.offer, meant, parsed]
  rfl

theorem offer_of_refuses (reads : a.reads p = true) (refused : (h.parse p a.event).1 ≠ .ok ())
    (rest : List Handle) : Engine.offer h a.event (p :: rest) = h.parse p a.event := by
  have meant : (p.manifest.can .eventParsing && p.manifest.reads a.event.source) = true := reads
  rw [Engine.offer, meant]
  rcases parsed : h.parse p a.event with ⟨_ | reason | panic, h'⟩
  · rw [parsed] at refused
    exact absurd rfl refused
  · rfl
  · rfl

/-- The process answers for these plugins as it did when the event came. -/
def Fresh (a : Arrival π) (h : Host π) (plugins : List Handle) : Prop :=
  ∀ q ∈ plugins, (h.parse q a.event).1 = (a.host.parse q a.event).1

/-- A plugin that is shown the event leaves the answers of the others as they are. -/
theorem Fresh.later (fresh : a.Fresh h (p :: rest)) (houses : h.Houses (p :: rest)) :
    a.Fresh (h.parse p a.event).2 rest := by
  intro q registered
  have others := (List.pairwise_cons.mp houses.distinct).1
  rw [h.parse_other (others q registered) a.event a.event]
  exact fresh q (List.mem_cons_of_mem p registered)

theorem Fresh.accepts_iff (fresh : a.Fresh h (p :: rest)) :
    a.accepts p = true ↔ (h.parse p a.event).1 = .ok () := by
  rw [accepts, decide_eq_true_iff, fresh p (List.mem_cons_self ..)]

/-- The plugins that are shown an event are those that are asked, and it gets through if all that read
it accept it. -/
theorem Fresh.offer (fresh : a.Fresh h plugins) (houses : h.Houses plugins) :
    (Engine.offer h a.event plugins).2.journal.toList =
        h.journal.toList ++ (a.asked plugins).map (·.parsing a.event) ∧
      ((Engine.offer h a.event plugins).1 = .ok () ↔
        ∀ q ∈ plugins, a.reads q = true → a.accepts q = true) := by
  induction plugins generalizing h with
  | nil => simp [Engine.offer, asked]
  | cons p rest ih =>
    have entered := (houses.held p (List.mem_cons_self ..)).journal_parse a.event
    have later := (h.parse_continues p a.event).manifests
    cases reads : a.reads p with
    | false =>
      rw [offer_of_not_reads reads, asked_of_not_reads reads]
      simpa [reads] using ih (List.forall_mem_cons.mp fresh).2 houses.tail
    | true =>
      by_cases accepted : (h.parse p a.event).1 = .ok ()
      · have accepts := fresh.accepts_iff.mpr accepted
        obtain ⟨journal, result⟩ := ih (fresh.later houses) (houses.tail.later later)
        rw [offer_of_accepts reads accepted, asked_of_accepts reads accepts]
        constructor
        · simp [journal, entered]
        · simp [result, reads, accepts]
      · have refuses := Bool.eq_false_iff.mpr fun accepts => accepted (fresh.accepts_iff.mp accepts)
        rw [offer_of_refuses reads accepted, asked_of_refuses reads refuses]
        constructor
        · simp [entered]
        · simp [accepted, reads, refuses]

omit [Plugin π ι] in
theorem seen_append (p : Handle) (calls later : List Call) :
    p.seen (calls ++ later) = p.seen calls ++ p.seen later :=
  List.filterMap_append

theorem seen_others (others : ∀ q ∈ plugins, q.slot ≠ p.slot) :
    p.seen ((a.asked plugins).map (·.parsing a.event)) = [] := by
  rw [Handle.seen, List.filterMap_map, List.filterMap_eq_nil_iff]
  intro q asked
  have registered : q ∈ plugins := by
    simp only [Arrival.asked, List.mem_append] at asked
    obtain early | last := asked
    · exact (List.mem_filter.mp (List.takeWhile_subset _ early)).1
    · exact (List.mem_filter.mp (List.dropWhile_subset _ (List.mem_of_mem_take last))).1
  simp [Handle.parsing, others q registered]

/-- A plugin is shown an event, once, exactly if the event reaches it. -/
theorem seen_asked (distinct : (before ++ p :: after).Pairwise fun q r => q.slot ≠ r.slot) :
    p.seen ((a.asked (before ++ p :: after)).map (·.parsing a.event)) =
      if a.Reaches before p then [a.event] else [] := by
  induction before with
  | nil =>
    have others : ∀ q ∈ after, q.slot ≠ p.slot := fun q registered =>
      ((List.pairwise_cons.mp distinct).1 q registered).symm
    have rest := seen_others (a := a) others
    cases reads : a.reads p with
    | false => simp [asked_of_not_reads reads, rest, reaches_nil, reads]
    | true =>
      cases accepts : a.accepts p with
      | false => simp [asked_of_refuses reads accepts, Handle.seen, Handle.parsing, Action.parsed?,
          reaches_nil, reads]
      | true =>
        rw [List.nil_append, asked_of_accepts reads accepts, List.map_cons, ← List.singleton_append,
          seen_append, rest]
        simp [Handle.seen, Handle.parsing, Action.parsed?, reaches_nil, reads]
  | cons q before ih =>
    obtain ⟨others, distinct⟩ := List.pairwise_cons.mp distinct
    have ne : q.slot ≠ p.slot := others p (by simp)
    have seen := ih distinct
    cases reads : a.reads q with
    | false => simp [asked_of_not_reads reads, seen, reaches_cons, reads]
    | true =>
      cases accepts : a.accepts q with
      | false => simp [asked_of_refuses reads accepts, Handle.seen, Handle.parsing, ne, reaches_cons, reads,
          accepts]
      | true =>
        rw [List.cons_append, asked_of_accepts reads accepts, List.map_cons, ← List.singleton_append,
          seen_append, seen]
        simp [Handle.seen, Handle.parsing, ne, reaches_cons, reads, accepts]

/-- Each plugin, when it is asked after these, answers as it would have when the event came. -/
theorem offer_other (others : ∀ q ∈ before, q.slot ≠ p.slot) (h : Host π) (e : Event) :
    ((Engine.offer h e before).2.parse p e).1 = (h.parse p e).1 := by
  induction before generalizing h with
  | nil => rfl
  | cons q rest ih =>
    obtain ⟨ne, others⟩ := List.forall_mem_cons.mp others
    have unchanged := h.parse_other ne e e
    unfold Engine.offer
    split
    · rcases parsed : h.parse q e with ⟨_ | reason | panic, h'⟩
      all_goals rw [parsed] at unchanged
      · exact (ih others h').trans unchanged
      · exact unchanged
      · exact unchanged
    · exact ih others h

end Arrival

/-! ## One step -/

/-- The event that the next step will take from the source, and the process then. -/
def Engine.arrival (g : Engine ι) (h : Host π) : Option (Arrival π) :=
  match g.finished, g.source with
  | none, some s =>
    match s.pull h with
    | (.ok (.event raw), _, h) => some ⟨g.number raw, h⟩
    | _ => none
  | _, _ => none

namespace Turn

def arrival (t : Turn π ι) : Option (Arrival π) :=
  match t.call with
  | .next => t.engine.arrival t.host
  | _ => none

def shows (t : Turn π ι) : List Call :=
  match t.arrival with
  | some a => (a.asked t.engine.registry.plugins).map (·.parsing a.event)
  | none => []

/-- What a step does with the event that it took from the source. -/
structure Settles (t : Turn π ι) (a : Arrival π) : Prop where
  numbered : a.event.num = t.engine.nextNum
  used : t.after.nextNum = t.engine.nextNum + 1
  answers : ∀ before p after, t.engine.registry.plugins = before ++ p :: after →
    ((Engine.offer a.host a.event before).2.parse p a.event).1 = (a.host.parse p a.event).1
  ok_iff : t.reply = .stepped (.ok .ok) ↔
    ∀ p ∈ t.engine.registry.plugins, a.reads p = true → a.accepts p = true
  delivered : t.reply = .stepped (.ok .ok) → t.after.current = some a.event ∧
    t.after.counters = { t.engine.counters with events := t.engine.counters.events + 1 }
  refused : t.reply ≠ .stepped (.ok .ok) → t.after.current = none ∧
    (t.reply = .stepped (.ok .timeout) ∧
      t.after.counters = { t.engine.counters with drops := t.engine.counters.drops + 1 } ∨
    ∃ panic, t.reply = .stepped (.error panic) ∧ t.after.counters = t.engine.counters)

end Turn

section Steps
variable {g g' : Engine ι} {h h' : Host π} {a : Arrival π} {t : Turn π ι}

theorem Source.pull_enters (s : Source ι) (h : Host π) :
    h.Enters Action.asksForEvents (s.pull h).2.2 := by
  apply Host.Makes.enters
  exact (s.draws h).makes fun _ _ _ _ _ _ => rfl

/-- A step that takes an event from its source. -/
theorem Engine.arrival_of_event {s : Source ι} (finished : g.finished = none)
    (opened : g.source = some s) (pulled : s.pull h = (.ok (.event raw), s', h')) :
    g.arrival h = some ⟨g.number raw, h'⟩ ∧ h.Enters Action.asksForEvents h' ∧ h.Continues h' := by
  have entered := s.pull_enters h
  have continues := s.pull_continues h
  rw [pulled] at entered continues
  exact ⟨by simp only [arrival, finished, opened, pulled], entered, continues⟩

/-- A step asks its source for events and shows the one it takes to the plugins. -/
structure Engine.Takes (g : Engine ι) (h : Host π) (a : Arrival π) (result : Except Panic Status)
    (g' : Engine ι) (h' : Host π) : Prop where
  entered : h.Enters Action.asksForEvents a.host
  continues : h.Continues a.host
  left : h' = (offer a.host a.event g.registry.plugins).2
  numbered : a.event.num = g.nextNum
  used : g'.nextNum = g.nextNum + 1
  accepted : (offer a.host a.event g.registry.plugins).1 = .ok () →
    result = .ok .ok ∧ g'.current = some a.event ∧
      g'.counters = { g.counters with events := g.counters.events + 1 }
  refused : ∀ reason, (offer a.host a.event g.registry.plugins).1 = .failed reason →
    result = .ok .timeout ∧ g'.current = none ∧
      g'.counters = { g.counters with drops := g.counters.drops + 1 }
  panicked : ∀ panic, (offer a.host a.event g.registry.plugins).1 = .panicked panic →
    result = .error panic ∧ g'.current = none ∧ g'.counters = g.counters

theorem Engine.Advance.takes (step : Advance g h e result g' h') :
    (g.arrival h = none ∧ g'.current = none ∧ h.Enters Action.asksForEvents h') ∨
      ∃ a, g.arrival h = some a ∧ g.Takes h a result g' h' := by
  cases step with
  | ended finished =>
    left
    exact ⟨by simp only [arrival, finished], rfl, .refl _ h⟩
  | closed finished closed =>
    left
    exact ⟨by simp only [arrival, finished, closed], rfl, .refl _ h⟩
  | @interrupted s _ _ _ finished opened pulled | @timeout s _ _ finished opened pulled
  | @eof s _ _ finished opened pulled | @failed s _ _ _ finished opened pulled =>
    left
    have entered := s.pull_enters h
    rw [pulled] at entered
    exact ⟨by simp only [arrival, finished, opened, pulled], rfl, entered⟩
  | delivered finished opened pulled offered | refused finished opened pulled offered
  | parsePanicked finished opened pulled offered =>
    right
    obtain ⟨arrives, entered, continues⟩ := arrival_of_event finished opened pulled
    refine ⟨_, arrives, entered, continues, ?_, rfl, rfl, ?_, ?_, ?_⟩
    · rw [offered]
    all_goals
      simp [offered, countEvent, countDrop]

theorem Engine.Takes.ok_iff (takes : g.Takes h a result g' h') :
    result = .ok .ok ↔ (Engine.offer a.host a.event g.registry.plugins).1 = .ok () := by
  constructor
  · intro ok
    cases offered : (Engine.offer a.host a.event g.registry.plugins).1 with
    | ok _ => rfl
    | failed reason => cases ok.symm.trans (takes.refused reason offered).1
    | panicked panic => cases ok.symm.trans (takes.panicked panic offered).1
  · intro accepted
    exact (takes.accepted accepted).1

/-- Just after an event came, the plugins answer as they do then, and have their slots still. -/
theorem Engine.Takes.offer {plugins : List Handle} (takes : g.Takes h a result g' h')
    (houses : h.Houses plugins) :
    (Engine.offer a.host a.event plugins).2.journal.toList =
        a.host.journal.toList ++ (a.asked plugins).map (·.parsing a.event) ∧
      ((Engine.offer a.host a.event plugins).1 = .ok () ↔
        ∀ q ∈ plugins, a.reads q = true → a.accepts q = true) := by
  apply Arrival.Fresh.offer
  · intro q registered
    rfl
  · exact houses.later takes.continues.manifests

namespace Turn

theorem arrival_of_rest (rest : t.call.isNext = false) : t.arrival = none := by
  unfold arrival
  split
  · rename_i next
    rw [next] at rest
    cases rest
  · rfl

/-- The calls that an operation makes, of which only those of steps show events. -/
theorem calls_eq (houses : t.host.Houses t.engine.registry.plugins) :
    ∃ others, t.calls = others ++ t.shows ∧ ∀ c ∈ others, c.action.parsed? = none := by
  cases step : t.call.isNext with
  | false =>
    refine ⟨t.calls, by simp [shows, arrival_of_rest step], ?_⟩
    intro c made
    have manages := calls_manage step c made
    cases action : c.action <;> simp_all [Action.manages, Action.parsed?]
  | true =>
    have quiet : ∀ calls : List Call, (∀ c ∈ calls, c.action.asksForEvents = true) →
        ∀ c ∈ calls, c.action.parsed? = none := by
      intro calls asks c made
      have asked := asks c made
      cases action : c.action <;> simp_all [Action.asksForEvents, Action.parsed?]
    obtain ⟨g, h, c⟩ := t
    cases c with
    | next =>
      obtain ⟨nothing, _, calls, entered, asks⟩ | ⟨a, took, takes⟩ := (g.next_advances h).takes
      · refine ⟨calls, ?_, quiet calls asks⟩
        have shown : shows ⟨g, h, .next⟩ = [] := by simp only [shows, arrival, nothing]
        rw [shown, List.append_nil]
        exact calls_of_journal entered
      · obtain ⟨calls, entered, asks⟩ := takes.entered
        refine ⟨calls, ?_, quiet calls asks⟩
        apply calls_of_journal
        have shown : shows ⟨g, h, .next⟩ =
            (a.asked g.registry.plugins).map (·.parsing a.event) := by
          simp only [shows, arrival, took]
        rw [shown, ← List.append_assoc, ← entered]
        exact (congrArg (·.journal.toList) takes.left).trans (takes.offer houses).1
    | _ => cases step

theorem settles (houses : t.host.Houses t.engine.registry.plugins) (took : t.arrival = some a) :
    t.Settles a := by
  obtain ⟨g, h, c⟩ := t
  cases c with
  | next =>
    obtain ⟨nothing, _⟩ | ⟨b, taken, takes⟩ := (g.next_advances h).takes
    · cases nothing.symm.trans took
    · obtain rfl : b = a := Option.some.inj (taken.symm.trans took)
      have answer : ∀ result, reply ⟨g, h, .next⟩ = .stepped result ↔ (g.next h).1 = result :=
        fun result => ⟨EngineReply.stepped.inj, congrArg _⟩
      refine ⟨takes.numbered, takes.used, ?_, ?_, ?_, ?_⟩
      · intro before p after split
        apply Arrival.offer_other
        intro q registered
        have distinct := houses.distinct
        rw [split] at distinct
        exact (List.pairwise_append.mp distinct).2.2 q registered p (List.mem_cons_self ..)
      · rw [answer, takes.ok_iff]
        exact (takes.offer houses).2
      · rw [answer]
        intro ok
        exact (takes.accepted (takes.ok_iff.mp ok)).2
      · intro other
        cases offered : (Engine.offer b.host b.event g.registry.plugins).1 with
        | ok _ => exact absurd ((answer _).mpr (takes.ok_iff.mpr offered)) other
        | failed reason =>
          obtain ⟨timeout, current, counters⟩ := takes.refused reason offered
          exact ⟨current, .inl ⟨(answer _).mpr timeout, counters⟩⟩
        | panicked panic =>
          obtain ⟨error, current, counters⟩ := takes.panicked panic offered
          exact ⟨current, .inr ⟨panic, (answer _).mpr error, counters⟩⟩
  | _ => cases took

theorem seen_shows (houses : t.host.Houses t.engine.registry.plugins) (p : Handle) :
    p.seen t.calls = p.seen t.shows := by
  obtain ⟨others, calls, quiet⟩ := t.calls_eq houses
  have unseen : p.seen others = [] := by
    apply List.filterMap_eq_nil_iff.mpr
    intro c made
    simp [quiet c made]
  rw [calls, Arrival.seen_append, unseen, List.nil_append]

/-- What a plugin is shown by an operation. -/
theorem seen_eq {before after : List Handle} {p : Handle}
    (houses : t.host.Houses t.engine.registry.plugins)
    (split : t.engine.registry.plugins = before ++ p :: after) :
    p.seen t.calls = (t.arrival.toList.filter (·.Reaches before p)).map Arrival.event := by
  rw [seen_shows houses, shows]
  cases t.arrival with
  | none => rfl
  | some a =>
    have distinct := houses.distinct
    rw [split] at distinct
    dsimp only
    rw [split, Arrival.seen_asked distinct]
    by_cases reaches : a.Reaches before p <;> simp [reaches]

theorem filter_calls (houses : t.host.Houses t.engine.registry.plugins) :
    t.calls.filter (·.action.parsed?.isSome) = t.shows := by
  obtain ⟨others, calls, quiet⟩ := t.calls_eq houses
  rw [calls, List.filter_append]
  have none : others.filter (·.action.parsed?.isSome) = [] := by
    apply List.filter_eq_nil_iff.mpr
    intro c made
    simp [quiet c made]
  have all : t.shows.filter (·.action.parsed?.isSome) = t.shows := by
    apply List.filter_eq_self.mpr
    intro c made
    unfold shows at made
    split at made
    · obtain ⟨p, _, rfl⟩ := List.mem_map.mp made
      rfl
    · cases made
  rw [none, all, List.nil_append]

/-- A plugin that is not yet there is shown nothing. -/
theorem seen_unborn (houses : t.host.Houses t.engine.registry.plugins) {p : Handle}
    (unborn : t.host.slots.length ≤ p.slot) : p.seen t.calls = [] := by
  rw [seen_shows houses, shows]
  cases t.arrival with
  | none => rfl
  | some a =>
    apply Arrival.seen_others
    intro q registered
    exact Nat.ne_of_lt (Nat.lt_of_lt_of_le (houses.held q registered).lt unborn)

end Turn

end Steps

/-! ## Runs -/

section Runs
variable {g g₀ : Engine ι} {h h' h₀ : Host π} {turns : List (Turn π ι)}

def Handle.shown (p : Handle) (turns : List (Turn π ι)) : List Event :=
  turns.reverse.flatMap fun t => p.seen t.calls

def arrivals (turns : List (Turn π ι)) : List (Arrival π) :=
  turns.reverse.filterMap Turn.arrival

theorem Handle.shown_cons (p : Handle) (t : Turn π ι) :
    p.shown (t :: turns) = p.shown turns ++ p.seen t.calls := by
  simp [shown]

theorem arrivals_cons (t : Turn π ι) : arrivals (t :: turns) = arrivals turns ++ t.arrival.toList := by
  simp only [arrivals, List.reverse_cons, List.filterMap_append]
  cases arrives : t.arrival <;> simp [arrives]

namespace Engine

/-- A plugin that is not yet there was shown nothing. -/
theorem Run.shown_unborn {p : Handle} (run : Run g₀ h₀ g h turns)
    (houses : h₀.Houses g₀.registry.plugins) (unborn : h.slots.length ≤ p.slot) :
    p.shown turns = [] := by
  induction run with
  | start => rfl
  | elsewhere h' run later ih => exact ih (Nat.le_trans (Host.slots_le later) unborn)
  | @call g h turns c run ih =>
    have grows := Host.slots_le (g.perform_continues h c).manifests
    have unborn := Nat.le_trans grows unborn
    rw [p.shown_cons, ih unborn, Turn.seen_unborn (run.houses houses) unborn, List.nil_append]

/-- A plugin was registered by a call of the run, and since then it was shown the events that reached
it past the plugins before it. -/
def Dispatched (turns : List (Turn π ι)) (before : List Handle) (p : Handle) : Prop :=
  ∃ newer t older, turns = newer ++ t :: older ∧ t.reply = .registered (.ok p) ∧
    p.shown turns = ((arrivals newer).filter (·.Reaches before p)).map Arrival.event

theorem Dispatched.call {before after : List Handle} {p : Handle} {t : Turn π ι}
    (dispatched : Dispatched turns before p) (houses : t.host.Houses t.engine.registry.plugins)
    (split : t.engine.registry.plugins = before ++ p :: after) : Dispatched (t :: turns) before p := by
  obtain ⟨newer, registering, older, rfl, registers, shown⟩ := dispatched
  refine ⟨t :: newer, registering, older, rfl, registers, ?_⟩
  rw [p.shown_cons, shown, t.seen_eq houses split, arrivals_cons, List.filter_append, List.map_append]

theorem Run.dispatched {before after : List Handle} {p : Handle} (run : Run g₀ h₀ g h turns)
    (new : g₀.registry.plugins = []) (split : g.registry.plugins = before ++ p :: after) :
    Dispatched turns before p := by
  have none : h₀.Houses g₀.registry.plugins := by
    rw [new]
    exact ⟨.nil, by simp⟩
  induction run generalizing after with
  | start => simp [new] at split
  | elsewhere h' run later ih => exact ih split
  | @call g h turns c run ih =>
    have houses := run.houses none
    have registers := g.perform_registers h c
    rw [split] at registers
    generalize now : before ++ p :: after = plugins at registers
    generalize answer : (g.perform h c).1 = reply at registers
    generalize (g.perform h c).2.2 = h' at registers
    cases registers with
    | kept => exact (ih now.symm).call houses now.symm
    | cleared => simp at now
    | added q slot holds =>
      obtain rfl | ⟨rest, last, rfl⟩ := List.eq_nil_or_concat after
      · obtain ⟨rfl, rfl⟩ := List.append_singleton_inj.mp now
        refine ⟨[], ⟨g, h, c⟩, turns, rfl, answer, ?_⟩
        have unborn := Nat.le_of_eq slot.symm
        rw [p.shown_cons, run.shown_unborn none unborn, Turn.seen_unborn houses unborn]
        rfl
      · have old : before ++ p :: rest = g.registry.plugins := by
          rw [List.concat_eq_append, ← List.cons_append, ← List.append_assoc] at now
          exact (List.append_singleton_inj.mp now).1
        exact (ih old.symm).call houses old.symm

/-- What holds of every run of a new engine. Each plugin is shown, in order and each once, the events
that were taken since it was registered, that it reads, and that no plugin before it refused. A step
delivers the event that it takes if all plugins that read it accept it; else it is dropped, and its
number is used up. Nothing else shows events to plugins. -/
theorem Run.dispatches {hostname : Option String} (run : (fresh hostname).Run h₀ g h turns) :
    (∀ before p after, g.registry.plugins = before ++ p :: after → Dispatched turns before p) ∧
    ∀ t ∈ turns, t.calls.filter (·.action.parsed?.isSome) = t.shows ∧
      ∀ a, t.arrival = some a → t.Settles a := by
  constructor
  · intro before p after split
    exact run.dispatched rfl split
  · intro t logged
    obtain ⟨newer, older, rfl⟩ := List.append_of_mem logged
    have houses : t.host.Houses t.engine.registry.plugins :=
      run.split.1.houses ⟨.nil, by simp [fresh, Registry.empty]⟩
    refine ⟨Turn.filter_calls houses, ?_⟩
    intro a took
    exact Turn.settles houses took

end Engine

end Runs

end Offers

def Scripted.plain (name : String) (c : Capability) (source : Option String) : Manifest :=
  ⟨name, "", "", .of [c], source, [], []⟩

namespace Engine

/-- Three events, of which a plugin refuses the second; another one is registered after the first. -/
def choosing : Engine Scripted.Stream × Host Scripted × List (Turn Scripted Scripted.Stream) :=
  let script : Scripted := ⟨none, none, .labelled "", [], [], []⟩
  let letters : Batch := .events [⟨some 7, [97]⟩, ⟨some 8, [98]⟩, ⟨some 9, [99]⟩]
  (fresh none).play (Host.fresh .bare) [] [
    .register (Scripted.descriptor (Scripted.plain "source" .eventSourcing (some "letters")) none
      { script with steps := some [.batch letters] }) "",
    .register (Scripted.descriptor (Scripted.plain "picky" .eventParsing none) none
      { script with parsing := [([98], .fail "not this one")] }) "",
    .openPlugin "source" "" false, .next,
    .register (Scripted.descriptor (Scripted.plain "late" .eventParsing none) none script) "",
    .next, .next]

/-- The plugin that refuses the second event sees all three, and the one after it only the third. -/
theorem choosing_dispatches :
    let source : Handle := ⟨0, Scripted.plain "source" .eventSourcing (some "letters")⟩
    let picky : Handle := ⟨1, Scripted.plain "picky" .eventParsing none⟩
    let late : Handle := ⟨2, Scripted.plain "late" .eventParsing none⟩
    choosing.1.registry.plugins = [source, picky, late] ∧
      Dispatched choosing.2.2 [source] picky ∧ Dispatched choosing.2.2 [source, picky] late ∧
      (picky.shown choosing.2.2).map Event.num = [0, 1, 2] ∧
      (late.shown choosing.2.2).map Event.num = [2] ∧
      ∀ t ∈ choosing.2.2, ∀ a, t.arrival = some a → t.Settles a := by
  intro source picky late
  have run : (fresh none).Run (Host.fresh .bare) choosing.1 choosing.2.1 choosing.2.2 :=
    Run.play .start _
  have registered : choosing.1.registry.plugins = [source, picky, late] := by decide +kernel
  have dispatches := run.dispatches
  refine ⟨registered, ?_, ?_, by decide +kernel, by decide +kernel, ?_⟩
  · exact dispatches.1 [source] picky [late] registered
  · exact dispatches.1 [source, picky] late [] registered
  · intro t logged
    exact (dispatches.2 t logged).2

end Engine

end EventProbe
