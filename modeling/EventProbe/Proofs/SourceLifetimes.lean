import EventProbe.Driver
import EventProbe.Plugins.Scripted
import EventProbe.Proofs.PluginSlots
import EventProbe.Proofs.SourceLedgers
import Mathlib.Logic.Function.Basic

/-! The life of a source that a plugin opened: it is asked for events while the engine holds it, closed
when the engine lets go of it, and then left alone. Told by the ledgers of the plugins: the engine holds
at most one source, and every operation either leaves the ledgers as they are or enters one use of the
source that is held. -/
namespace EventProbe

def EngineCall.ends : EngineCall π → Bool
  | .stop | .shutdown => true
  | _ => false

def Host.ledger (h : Host (Kept π)) (slot : Nat) : Ledger :=
  (h.slots[slot]?.map (·.state.ledger)).getD .empty

def Host.life (h : Host (Kept π)) (slot number : Nat) : List SourceUse :=
  (h.ledger slot).life number

section Ends
variable [Plugin π ι]

/-- The end of an engine: it closes its source. -/
def Engine.release (g : Engine ι) (h : Host π) : Host π :=
  (g.stop h).2

/-- The end of a driver: it shuts its engine down, and then the engine ends as well. -/
def Driver.release (d : Driver ι) (h : Host π) : Host π :=
  (d.drop h).1.engine.release (d.drop h).2

/-- What the end of an engine leaves, or the end of a driver that owns it. -/
inductive Engine.Dropped (g : Engine ι) (h : Host π) : Host π → Prop where
  | alone : Dropped g h (g.release h)
  | owned (d : Driver ι) : d.engine = g → Dropped g h (d.release h)

/-- A new engine after some calls, when all plugins keep ledgers. -/
def Engine.recorded (hostname : Option String) (h₀ : Host π) (calls : List (EngineCall π)) :
    Engine (Numbered ι) × Host (Kept π) × List (Turn (Kept π) (Numbered ι)) :=
  (fresh hostname).play h₀.kept [] (calls.map EngineCall.kept)

/-- What becomes of a source that is held after some calls. While the capture goes on it is at most
asked for events; the call that ends it closes it, or else the end of the engine; nothing later uses it. -/
structure Engine.ClosesOnce (hostname : Option String) (h₀ : Host π) (calls : List (EngineCall π))
    (slot number : Nat) : Prop where
  asked : ∀ during, (∀ c ∈ during, c.ends = false) →
    ∀ use ∈ (recorded hostname h₀ (calls ++ during)).2.1.life slot number, use = .asked
  dropped : ∀ during left, (∀ c ∈ during, c.ends = false) →
    (recorded hostname h₀ (calls ++ during)).1.Dropped
      (recorded hostname h₀ (calls ++ during)).2.1 left →
    left.life slot number =
      (recorded hostname h₀ (calls ++ during)).2.1.life slot number ++ [.closed]
  ended : ∀ during last after, (∀ c ∈ during, c.ends = false) → last.ends = true →
    (recorded hostname h₀ (calls ++ during ++ last :: after)).2.1.life slot number =
      (recorded hostname h₀ (calls ++ during)).2.1.life slot number ++ [.closed]
  later : ∀ during last after left, (∀ c ∈ during, c.ends = false) → last.ends = true →
    (recorded hostname h₀ (calls ++ during ++ last :: after)).1.Dropped
      (recorded hostname h₀ (calls ++ during ++ last :: after)).2.1 left →
    left.life slot number =
      (recorded hostname h₀ (calls ++ during)).2.1.life slot number ++ [.closed]

end Ends

/-- The slot of the plugin that opened a source, and the number of the source. -/
def Source.entry : Source (Numbered ι) → Option (Nat × Nat)
  | .capture _ => none
  | .plugin stream => some (stream.owner.slot, stream.state.number)

def Engine.entry (g : Engine (Numbered ι)) : Option (Nat × Nat) :=
  g.source.bind Source.entry

namespace Ledger
variable {l : Ledger} {n m : Nat} {use : SourceUse}

@[simp] theorem opened_enter : (l.enter n use).opened = l.opened := rfl

@[simp] theorem opened_grow : l.grow.opened = l.opened + 1 := rfl

@[simp] theorem life_grow : l.grow.life n = l.life n := rfl

@[simp] theorem life_enter : (l.enter n use).life n = l.life n ++ [use] := by
  simp [life, enter]

@[simp] theorem life_enter_ne (ne : n ≠ m) : (l.enter n use).life m = l.life m := by
  simp [life, enter, ne]

end Ledger

/-! ## One operation -/

/-- What an operation does to the source that is held and to the ledgers. -/
inductive Custody (ledgers : Nat → Ledger) :
    Option (Nat × Nat) → Bool → Option (Nat × Nat) → (Nat → Ledger) → Prop where
  | nothing : Custody ledgers held false held ledgers
  | opens (slot : Nat) : Custody ledgers none false (some (slot, (ledgers slot).opened))
      (Function.update ledgers slot (ledgers slot).grow)
  | asks (slot n : Nat) : Custody ledgers (some (slot, n)) false (some (slot, n))
      (Function.update ledgers slot ((ledgers slot).enter n .asked))
  | closes (slot n : Nat) : Custody ledgers (some (slot, n)) true none
      (Function.update ledgers slot ((ledgers slot).enter n .closed))
  | closed : Custody ledgers none true none ledgers

section Calls
variable {h : Host (Kept π)} {slot n : Nat} {action : Action}

theorem Host.ledger_call (h : Host (Kept π)) (slot : Nat) (action : Action) (absent : α)
    (run : Kept π → α × Kept π) : (h.call slot action absent run).2.ledger =
      match h.slots[slot]? with
      | none => h.ledger
      | some s => Function.update h.ledger slot (run s.state).2.ledger := by
  unfold call
  cases there : h.slots[slot]? with
  | none => rfl
  | some s =>
    funext other
    have inside := (List.getElem?_eq_some_iff.mp there).1
    by_cases same : other = slot
    · subst same
      simp [ledger, record, inside]
    · simp [ledger, record, Ne.symm same, same]

/-- A call that leaves the ledger of its plugin alone. -/
theorem Host.ledger_call_of_leaves {absent : α} {run : Kept π → α × Kept π}
    (leaves : ∀ k, (run k).2.ledger = k.ledger) :
    (h.call slot action absent run).2.ledger = h.ledger := by
  rw [ledger_call]
  cases there : h.slots[slot]? with
  | none => rfl
  | some s => simp [leaves, ledger, there]

/-- A call that changes the ledger of its plugin, which is there. -/
theorem Host.ledger_call_of_changes (h : Host (Kept π)) (slot : Nat) (action : Action) (absent : α)
    (run : Kept π → α × Kept π) (change : Ledger → Ledger) (changes : ∀ k, (run k).2.ledger = change k.ledger)
    (opened : n < (h.ledger slot).opened) : (h.call slot action absent run).2.ledger =
      Function.update h.ledger slot (change (h.ledger slot)) := by
  rw [ledger_call]
  cases there : h.slots[slot]? with
  | none => simp [ledger, there, Ledger.empty] at opened
  | some s => simp [changes, ledger, there]

variable [Plugin π ι]

theorem Host.ledger_openSource {p : Handle} {params : String} {source : Numbered ι}
    {h' : Host (Kept π)} (opens : h.openSource p params = (.ok source, h')) :
    source.number = (h.ledger p.slot).opened ∧
      h'.ledger = Function.update h.ledger p.slot (h.ledger p.slot).grow := by
  have made := h.ledger_call p.slot (.openSource params) (.failed "plugin does not generate events")
    (Plugin.openSource · params)
  change (h.openSource p params).2.ledger = _ at made
  rw [opens] at made
  unfold openSource call at opens
  cases there : h.slots[p.slot]? with
  | none => simp [there] at opens
  | some s =>
    simp only [there] at opens made
    rcases answer : Plugin.openSource s.state.plugin params with ⟨state | reason | panic, plugin⟩
    all_goals simp only [Plugin.openSource, answer, Prod.mk.injEq, Outcome.ok.injEq, reduceCtorEq,
      false_and] at opens made
    obtain ⟨rfl, -⟩ := opens
    simp [made, ledger, there]

/-- A source that fails to open is in no ledger. -/
theorem Host.ledger_openSource_of_fails {p : Handle} {params : String}
    (fails : ∀ source, (h.openSource p params).1 ≠ .ok source) :
    (h.openSource p params).2.ledger = h.ledger := by
  rw [openSource, ledger_call]
  cases there : h.slots[p.slot]? with
  | none => rfl
  | some s =>
    rcases answer : Plugin.openSource s.state.plugin params with ⟨state | reason | panic, plugin⟩
    · simp [openSource, call, there, Plugin.openSource, answer] at fails
    all_goals simp [Plugin.openSource, answer, ledger, there]

theorem Host.ledger_nextBatch {p : Handle} {source source' : Numbered ι} {h' : Host (Kept π)}
    (answer : h.nextBatch p source = (batch, source', h')) (opened : n < (h.ledger p.slot).opened) :
    source'.number = source.number ∧ h'.ledger =
      Function.update h.ledger p.slot ((h.ledger p.slot).enter source.number .asked) := by
  have entered := h.ledger_call_of_changes p.slot .nextBatch (.ok .endOfStream, source)
    (fun k => let (batch, k, source) := Plugin.nextBatch k source; ((batch, source), k))
    (·.enter source.number .asked) (fun _ => rfl) opened
  change (h.nextBatch p source).2.2.ledger = _ at entered
  rw [answer] at entered
  refine ⟨?_, entered⟩
  unfold nextBatch call at answer
  cases there : h.slots[p.slot]? with
  | none =>
    simp only [there] at answer
    cases answer
    rfl
  | some s =>
    simp only [there] at answer
    cases answer
    rfl

theorem Engine.ledger_offer (h : Host (Kept π)) (e : Event) (plugins : List Handle) :
    (offer h e plugins).2.ledger = h.ledger :=
  offer_relates (fun h h' => h'.ledger = h.ledger) (fun _ => rfl)
    (fun first second => second.trans first)
    (fun _ _ _ _ _ => Host.ledger_call_of_leaves fun _ => rfl) h

omit [Plugin π ι] in
/-- A new plugin begins with an empty ledger. -/
theorem Registry.ledger_register (r : Registry) (d : Descriptor π) (config : String) :
    (r.register h d.kept config).2.2.ledger = h.ledger := by
  funext slot
  obtain ⟨_, _, same⟩ | ⟨h', state, registered, slots, made⟩ := r.register_cases h d.kept config
  · simp [Host.ledger, same]
  · have empty : state.ledger = .empty := by
      simp only [Descriptor.kept, Descriptor.map] at made
      cases answer : d.init config with
      | ok plugin =>
        rw [answer] at made
        cases made
        rfl
      | failed | panicked =>
        rw [answer] at made
        cases made
    rw [registered]
    simp only [Host.ledger, slots, List.getElem?_append]
    split
    · rfl
    · rename_i beyond
      rw [List.getElem?_eq_none (Nat.le_of_not_lt beyond), List.getElem?_singleton]
      split <;> simp [empty]

theorem Source.pull_custody (s : Source (Numbered ι)) (h : Host (Kept π))
    (there : ∀ slot n, s.entry = some (slot, n) → n < (h.ledger slot).opened) :
    Custody h.ledger s.entry false (s.pull h).2.1.entry (s.pull h).2.2.ledger := by
  have draws := s.draws h
  generalize s.pull h = pulled at draws ⊢
  obtain ⟨result, s', h'⟩ := pulled
  cases draws with
  | recorded | waiting => exact .nothing
  | asked stream _ answer =>
    obtain ⟨same, entered⟩ := Host.ledger_nextBatch answer (there _ _ rfl)
    simp only [entry, same, entered]
    exact .asks _ _

theorem Source.close_custody (s : Source (Numbered ι)) (h : Host (Kept π))
    (there : ∀ slot n, s.entry = some (slot, n) → n < (h.ledger slot).opened) :
    Custody h.ledger s.entry true none (s.close h).ledger := by
  cases s with
  | capture records => exact .closed
  | plugin stream =>
    have entered := h.ledger_call_of_changes stream.owner.slot .close ()
      (fun k => ((), Plugin.close k stream.state)) (·.enter stream.state.number .closed)
      (fun _ => rfl) (there _ _ rfl)
    change (h.close stream.owner stream.state).ledger = _ at entered
    simp only [close, entered]
    exact .closes _ _

theorem Engine.stop_custody (g : Engine (Numbered ι)) (h : Host (Kept π))
    (there : ∀ slot n, g.entry = some (slot, n) → n < (h.ledger slot).opened) :
    Custody h.ledger g.entry true (g.stop h).1.entry (g.stop h).2.ledger := by
  unfold stop
  cases opened : g.source with
  | none =>
    simp only [entry, opened]
    exact .closed
  | some s =>
    have same : g.entry = s.entry := by simp [entry, opened]
    rw [same] at there ⊢
    exact s.close_custody h there

/-- Only an open that succeeds gives the engine a source of a plugin. -/
theorem Engine.openPlugin_custody (g : Engine (Numbered ι)) (h : Host (Kept π))
    (name params : String) (platform : Bool) :
    Custody h.ledger g.entry false (g.openPlugin h name params platform).2.1.entry
      (g.openPlugin h name params platform).2.2.ledger := by
  obtain ⟨refused, same⟩ | ⟨none, owner, source, state, h', _, _, answer, opened⟩ :=
    g.openPlugin_cases h name params platform
  · have kept : (g.openPlugin h name params platform).2.2.ledger = h.ledger := by
      obtain same | ⟨owner, fails, called⟩ := openPlugin_refused_host refused
      · rw [same]
      · rw [called]
        exact Host.ledger_openSource_of_fails fails
    rw [same, kept]
    exact .nothing
  · obtain ⟨number, grown⟩ := Host.ledger_openSource answer
    simp only [opened, entry, none, start, Option.bind_none, Option.bind_some, Source.entry, number,
      grown]
    exact .opens _

/-- A step asks the source for events, if it calls a plugin for them at all. -/
theorem Engine.next_custody (g : Engine (Numbered ι)) (h : Host (Kept π))
    (there : ∀ slot n, g.entry = some (slot, n) → n < (h.ledger slot).opened) :
    Custody h.ledger g.entry false (g.next h).2.1.entry (g.next h).2.2.ledger := by
  have step := g.next_advances h
  have pulls : ∀ {s}, g.source = some s →
      Custody h.ledger g.entry false (s.pull h).2.1.entry (s.pull h).2.2.ledger := by
    intro s opened
    have same : g.entry = s.entry := by simp [entry, opened]
    rw [same] at there ⊢
    exact s.pull_custody h there
  generalize g.delivery h = delivered at step
  generalize g.next h = stepped at step ⊢
  obtain ⟨result, g', h'⟩ := stepped
  cases step with
  | ended | closed => exact .nothing
  | interrupted _ opened pulled | timeout _ opened pulled | eof _ opened pulled
  | failed _ opened pulled =>
    have custody := pulls opened
    rw [pulled] at custody
    exact custody
  | delivered _ opened pulled offered | refused _ opened pulled offered
  | parsePanicked _ opened pulled offered =>
    have custody := pulls opened
    have kept := congrArg (·.2.ledger) offered
    simp only [ledger_offer] at kept
    rw [pulled, kept] at custody
    exact custody

/-- Every operation, of which only those that end a capture close a source. -/
theorem Engine.perform_custody (g : Engine (Numbered ι)) (h : Host (Kept π))
    (there : ∀ slot n, g.entry = some (slot, n) → n < (h.ledger slot).opened) (c : EngineCall π) :
    Custody h.ledger g.entry c.ends (g.perform h c.kept).2.1.entry
      (g.perform h c.kept).2.2.ledger := by
  cases c with
  | register plugin config =>
    have kept : (g.perform h (.register plugin.kept config)).2.2.ledger = h.ledger :=
      g.registry.ledger_register plugin config
    rw [EngineCall.kept, kept]
    exact .nothing
  | openCapture file =>
    obtain ⟨fault, refused⟩ | ⟨none, _, _, _, _, opened⟩ := g.openCapture_cases file
    · simp only [perform, EngineCall.kept, refused]
      exact .nothing
    · simp only [perform, EngineCall.kept, opened, entry, none, start]
      exact .nothing
  | openPlugin name params platform => exact g.openPlugin_custody h name params platform
  | next => exact g.next_custody h there
  | stop | shutdown => exact g.stop_custody h there

theorem Engine.Dropped.custody {g : Engine (Numbered ι)} {h' : Host (Kept π)}
    (dropped : g.Dropped h h')
    (there : ∀ slot n, g.entry = some (slot, n) → n < (h.ledger slot).opened) :
    Custody h.ledger g.entry true none h'.ledger := by
  cases dropped with
  | alone => exact g.stop_custody h there
  | owned d owns =>
    -- The engine has no source any more when it ends after the driver.
    subst owns
    exact d.engine.stop_custody h there

end Calls

/-! ## All operations -/

/-- The source that is held is in the ledger of its plugin, and no other but the opened ones are. -/
structure Orderly (ledgers : Nat → Ledger) (held : Option (Nat × Nat)) : Prop where
  held : ∀ slot n, held = some (slot, n) → n < (ledgers slot).opened
  unopened : ∀ slot n, (ledgers slot).opened ≤ n → (ledgers slot).life n = []

namespace Custody
variable {ledgers ledgers' : Nat → Ledger} {held held' : Option (Nat × Nat)} {ends : Bool}
  {slot n : Nat}

theorem orderly (custody : Custody ledgers held ends held' ledgers') (orderly : Orderly ledgers held) :
    Orderly ledgers' held' := by
  cases custody with
  | nothing => exact orderly
  | closed => exact orderly
  | opens slot =>
    constructor
    · rintro _ _ ⟨⟩
      simp
    · intro other n beyond
      by_cases same : other = slot
      · subst same
        simp only [Function.update_self, Ledger.opened_grow, Ledger.life_grow] at beyond ⊢
        exact orderly.unopened _ _ (by omega)
      · simp only [Function.update_of_ne same] at beyond ⊢
        exact orderly.unopened _ _ beyond
  | asks slot m | closes slot m =>
    have opened := orderly.held slot m rfl
    constructor
    · intro _ _ held
      cases held <;> simpa using opened
    · intro other n beyond
      by_cases same : other = slot
      · subst same
        simp only [Function.update_self, Ledger.opened_enter] at beyond ⊢
        rw [Ledger.life_enter_ne (by omega)]
        exact orderly.unopened _ _ beyond
      · simp only [Function.update_of_ne same] at beyond ⊢
        exact orderly.unopened _ _ beyond

/-- The source that is held stays held until the capture ends, and is at most asked. -/
theorem lives (custody : Custody ledgers (some (slot, n)) false held' ledgers') :
    held' = some (slot, n) ∧
      ((ledgers' slot).life n = (ledgers slot).life n ∨
        (ledgers' slot).life n = (ledgers slot).life n ++ [.asked]) := by
  cases custody with
  | nothing => simp
  | asks => simp

theorem dies (custody : Custody ledgers (some (slot, n)) true held' ledgers') :
    held' = none ∧ (ledgers' slot).opened = (ledgers slot).opened ∧
      (ledgers' slot).life n = (ledgers slot).life n ++ [.closed] := by
  cases custody with
  | closes => simp

/-- A source that is not held any more is left alone. -/
theorem rests (custody : Custody ledgers held ends held' ledgers') (opened : n < (ledgers slot).opened)
    (free : held ≠ some (slot, n)) :
    n < (ledgers' slot).opened ∧ held' ≠ some (slot, n) ∧
      (ledgers' slot).life n = (ledgers slot).life n := by
  cases custody with
  | nothing | closed => exact ⟨opened, free, rfl⟩
  | opens other =>
    by_cases same : slot = other
    · subst same
      simp
      omega
    · simp [same, Ne.symm same, opened]
  | asks other m | closes other m =>
    by_cases same : slot = other
    · subst same
      have ne : m ≠ n := by
        rintro rfl
        exact free rfl
      simp [Ledger.life_enter_ne ne, opened, ne]
    · simp [same, Ne.symm same, opened]

end Custody

section Runs
variable [Plugin π ι] {h : Host (Kept π)} {g : Engine (Numbered ι)} {slot n : Nat}

theorem Engine.play_append (g : Engine ι) (h : Host π) (turns : List (Turn π ι))
    (calls later : List (EngineCall π)) : g.play h turns (calls ++ later) =
      (g.play h turns calls).1.play (g.play h turns calls).2.1 (g.play h turns calls).2.2 later := by
  induction calls generalizing g h turns with
  | nil => rfl
  | cons c rest ih => exact ih _ _ _

/-- The engine, its host and the replies so far are those of the plugins without their ledgers. -/
structure Engine.Mirrors (state : Engine (Numbered ι) × Host (Kept π) × List (Turn (Kept π) (Numbered ι)))
    (state' : Engine ι × Host π × List (Turn π ι)) : Prop where
  engine : state.1.plain = state'.1
  host : state.2.1.plain = state'.2.1
  replies : state.2.2.map Turn.reply = state'.2.2.map Turn.reply

theorem Engine.play_mirrors {g' : Engine ι} {h' : Host π} {turns : List (Turn (Kept π) (Numbered ι))}
    {turns' : List (Turn π ι)} (mirrors : Mirrors (g, h, turns) (g', h', turns'))
    (calls : List (EngineCall π)) :
    Mirrors (g.play h turns (calls.map EngineCall.kept)) (g'.play h' turns' calls) := by
  induction calls generalizing g h turns g' h' turns' with
  | nil => exact mirrors
  | cons c rest ih =>
    obtain ⟨rfl, rfl, replies⟩ := mirrors
    apply ih
    have performed := perform_plain (g := g) (h := h) c
    constructor
    · rw [performed]
      rfl
    · rw [performed]
      rfl
    · simp only [List.map_cons, Turn.reply, performed, replies]
      rfl

theorem Engine.recorded_mirrors (hostname : Option String) (h₀ : Host π) (calls : List (EngineCall π)) :
    Mirrors (recorded hostname h₀ calls) ((fresh hostname).play h₀ [] calls) :=
  play_mirrors ⟨rfl, h₀.plain_kept, rfl⟩ calls

theorem Engine.play_orderly (orderly : Orderly h.ledger g.entry)
    (turns : List (Turn (Kept π) (Numbered ι))) (calls : List (EngineCall π)) :
    let later := g.play h turns (calls.map EngineCall.kept)
    Orderly later.2.1.ledger later.1.entry := by
  induction calls generalizing g h turns with
  | nil => exact orderly
  | cons c rest ih => exact ih ((g.perform_custody h orderly.held c).orderly orderly) _

/-- While a capture goes on, the source is held and only asked. -/
theorem Engine.play_lives (orderly : Orderly h.ledger g.entry) (held : g.entry = some (slot, n))
    (asked : ∀ use ∈ (h.ledger slot).life n, use = .asked) {calls : List (EngineCall π)}
    (goes : ∀ c ∈ calls, c.ends = false) (turns : List (Turn (Kept π) (Numbered ι))) :
    let later := g.play h turns (calls.map EngineCall.kept)
    later.1.entry = some (slot, n) ∧ ∀ use ∈ (later.2.1.ledger slot).life n, use = .asked := by
  induction calls generalizing g h turns with
  | nil => exact ⟨held, asked⟩
  | cons c rest ih =>
    obtain ⟨here, goes⟩ := List.forall_mem_cons.mp goes
    have custody := g.perform_custody h orderly.held c
    have orderly' := custody.orderly orderly
    rw [held, here] at custody
    obtain ⟨held', life⟩ := custody.lives
    refine ih orderly' held' ?_ goes _
    obtain life | life := life
    · rwa [life]
    · rw [life]
      simpa [or_imp, forall_and] using asked

/-- After that it is left alone. -/
theorem Engine.play_rests (orderly : Orderly h.ledger g.entry) (opened : n < (h.ledger slot).opened)
    (free : g.entry ≠ some (slot, n)) (turns : List (Turn (Kept π) (Numbered ι)))
    (calls : List (EngineCall π)) :
    let later := g.play h turns (calls.map EngineCall.kept)
    n < (later.2.1.ledger slot).opened ∧ later.1.entry ≠ some (slot, n) ∧
      (later.2.1.ledger slot).life n = (h.ledger slot).life n := by
  induction calls generalizing g h turns with
  | nil => exact ⟨opened, free, rfl⟩
  | cons c rest ih =>
    have custody := g.perform_custody h orderly.held c
    obtain ⟨opened', free', same⟩ := custody.rests opened free
    obtain ⟨opened'', free'', life⟩ := ih (custody.orderly orderly) opened' free' _
    exact ⟨opened'', free'', life.trans same⟩

namespace Engine
variable {hostname : Option String} {h₀ : Host π}

theorem recorded_orderly (hostname : Option String) (h₀ : Host π) (calls : List (EngineCall π)) :
    Orderly (recorded hostname h₀ calls).2.1.ledger (recorded hostname h₀ calls).1.entry := by
  have empty : ∀ slot, h₀.kept.ledger slot = .empty := by
    intro slot
    simp only [Host.ledger, Host.kept, List.getElem?_map]
    cases h₀.slots[slot]? <;> rfl
  apply play_orderly
  constructor
  · intro slot n held
    cases held
  · intro slot n _
    rw [empty]
    rfl

theorem recorded_append (calls later : List (EngineCall π)) :
    recorded hostname h₀ (calls ++ later) =
      (recorded hostname h₀ calls).1.play (recorded hostname h₀ calls).2.1
        (recorded hostname h₀ calls).2.2 (later.map EngineCall.kept) := by
  rw [recorded, List.map_append, play_append]
  rfl

/-- What a successful open leaves: the engine holds a new source, which has no uses yet. -/
theorem recorded_opens {before : List (EngineCall π)} {name params : String} {platform : Bool}
    {g : Engine ι} {h : Host π} {turns : List (Turn π ι)}
    (reached : (fresh hostname).play h₀ [] before = (g, h, turns))
    (opens : (g.openPlugin h name params platform).1 = .ok ()) :
    let now := recorded hostname h₀ before
    let later := recorded hostname h₀ (before ++ [.openPlugin name params platform])
    ∃ slot, later.1.entry = some (slot, (now.2.1.ledger slot).opened) ∧
      later.2.1.ledger = Function.update now.2.1.ledger slot (now.2.1.ledger slot).grow := by
  have mirrors := recorded_mirrors hostname h₀ before
  rw [reached] at mirrors
  obtain rfl : (recorded hostname h₀ before).1.plain = g := mirrors.engine
  obtain rfl : (recorded hostname h₀ before).2.1.plain = h := mirrors.host
  rw [openPlugin_plain] at opens
  rw [recorded_append]
  obtain ⟨refused, _⟩ | ⟨_, owner, source, state, h', _, _, answer, opened⟩ :=
    (recorded hostname h₀ before).1.openPlugin_cases (recorded hostname h₀ before).2.1 name params
      platform
  · exact absurd opens refused
  · obtain ⟨number, grown⟩ := Host.ledger_openSource answer
    refine ⟨owner.slot, ?_⟩
    simp [play, EngineCall.kept, perform, opened, entry, start, Source.entry, number, grown]

section Held
variable {calls during : List (EngineCall π)} {slot number : Nat}

/-- A source is held, and only asked for events, as long as no call ends the capture. -/
theorem recorded_lives (held : (recorded hostname h₀ calls).1.entry = some (slot, number))
    (unused : (recorded hostname h₀ calls).2.1.life slot number = [])
    (goes : ∀ c ∈ during, c.ends = false) :
    (recorded hostname h₀ (calls ++ during)).1.entry = some (slot, number) ∧
      ∀ use ∈ (recorded hostname h₀ (calls ++ during)).2.1.life slot number, use = .asked := by
  rw [recorded_append]
  refine play_lives (recorded_orderly hostname h₀ calls) held ?_ goes _
  change ∀ use ∈ (recorded hostname h₀ calls).2.1.life slot number, use = .asked
  simp [unused]

/-- The call that ends a capture closes its source, which nothing uses later. -/
theorem recorded_rests (held : (recorded hostname h₀ calls).1.entry = some (slot, number))
    {last : EngineCall π} (ends : last.ends = true) (after : List (EngineCall π)) :
    let later := recorded hostname h₀ (calls ++ last :: after)
    number < (later.2.1.ledger slot).opened ∧ later.1.entry ≠ some (slot, number) ∧
      later.2.1.life slot number = (recorded hostname h₀ calls).2.1.life slot number ++ [.closed] := by
  have orderly := recorded_orderly hostname h₀ calls
  have custody := perform_custody _ _ orderly.held last
  have opened := orderly.held slot number held
  have orderly' := custody.orderly orderly
  rw [held, ends] at custody
  obtain ⟨free, same, closed⟩ := custody.dies
  rw [recorded_append]
  obtain ⟨opened', free', life⟩ := play_rests orderly' (same ▸ opened) (by simp [free])
    (⟨_, _, last.kept⟩ :: (recorded hostname h₀ calls).2.2) after
  exact ⟨opened', free', life.trans closed⟩

theorem closesOnce_of_held (held : (recorded hostname h₀ calls).1.entry = some (slot, number))
    (unused : (recorded hostname h₀ calls).2.1.life slot number = []) :
    ClosesOnce hostname h₀ calls slot number := by
  constructor
  · intro during goes
    exact (recorded_lives held unused goes).2
  · intro during left goes dropped
    have custody := dropped.custody (recorded_orderly hostname h₀ (calls ++ during)).held
    rw [(recorded_lives held unused goes).1] at custody
    exact custody.dies.2.2
  · intro during last after goes ends
    exact (recorded_rests (recorded_lives held unused goes).1 ends after).2.2
  · intro during last after left goes ends dropped
    obtain ⟨opened, free, life⟩ := recorded_rests (recorded_lives held unused goes).1 ends after
    have custody := dropped.custody (recorded_orderly hostname h₀ _).held
    exact (custody.rests opened free).2.2.trans life

end Held

/-- Every source that a plugin opens for an engine is closed exactly once: by the first stop or shutdown
afterwards, or by the end of the engine or of its driver. Until then it is at most asked for events,
whatever else is called, and then it is not used any more. The ledgers that tell this change nothing
else. -/
theorem sources_closed_once (hostname : Option String) (h₀ : Host π) :
    (∀ calls, Mirrors (recorded hostname h₀ calls) ((fresh hostname).play h₀ [] calls)) ∧
    ∀ before name params platform g h turns, (fresh hostname).play h₀ [] before = (g, h, turns) →
      (g.openPlugin h name params platform).1 = .ok () →
      ∃ slot number,
        ((recorded hostname h₀ before).2.1.ledger slot).opened = number ∧
        ((recorded hostname h₀ (before ++ [.openPlugin name params platform])).2.1.ledger slot).opened =
          number + 1 ∧
        ClosesOnce hostname h₀ (before ++ [.openPlugin name params platform]) slot number := by
  refine ⟨recorded_mirrors hostname h₀, ?_⟩
  intro before name params platform g h turns reached opens
  obtain ⟨slot, held, grown⟩ := recorded_opens reached opens
  refine ⟨slot, _, rfl, by simp [grown], closesOnce_of_held held ?_⟩
  have unopened := (recorded_orderly hostname h₀ before).unopened slot _ (Nat.le_refl _)
  simpa [Host.life, grown] using unopened

end Engine

end Runs

namespace Engine

/-- A plugin whose sources end after one letter. -/
def ending : List (EngineCall Scripted) :=
  let script : Scripted := ⟨none, some [.batch (.events [⟨some 7, [97]⟩]), .batch .endOfStream],
    .labelled "", [], [], []⟩
  [.register (Scripted.descriptor
    ⟨"source", "", "", .of [.eventSourcing], some "letters", [], []⟩ none script) ""]

/-- Two captures. In the first one the stream ends and a second source is refused, and neither closes
the source that is open. -/
def endingTwice : List (EngineCall Scripted) :=
  [.next, .next, .next, .openPlugin "source" "" false, .stop, .next, .openPlugin "source" "" false,
    .next, .shutdown, .stop]

theorem endingTwice_closed_once :
    let state := (fresh none).play (Host.fresh .bare) [] ending
    let calls := ending ++ [.openPlugin "source" "" false]
    (state.1.openPlugin state.2.1 "source" "" false).1 = .ok () ∧
      (∃ slot number, ClosesOnce none (Host.fresh .bare) calls slot number) ∧
      (recorded none (Host.fresh .bare) (calls ++ endingTwice)).2.1.ledger 0 =
        ⟨2, [(0, .asked), (0, .asked), (0, .closed), (1, .asked), (1, .closed)]⟩ := by
  intro state calls
  have opens : (state.1.openPlugin state.2.1 "source" "" false).1 = .ok () := by decide +kernel
  obtain ⟨slot, number, _, _, closes⟩ :=
    (sources_closed_once none (Host.fresh .bare)).2 ending "source" "" false
      state.1 state.2.1 state.2.2 rfl opens
  exact ⟨opens, ⟨slot, number, closes⟩, by decide +kernel⟩

end Engine

end EventProbe
