import EventProbe.Proofs.EngineSteps
import EventProbe.Proofs.JournalEntries

/-! Runs of an engine. Its operations are called in any order, may fail and may panic; between two of
them the rest of the process goes on. A run carries its turns, newest first: every operation with the
state in which it was called, which decides all that it did. -/
namespace EventProbe

inductive EngineCall (π : Type) where
  | register (plugin : Descriptor π) (config : String)
  | openCapture (file : Except IoFault (List UInt8))
  | openPlugin (name params : String) (platform : Bool)
  | next
  | stop
  | shutdown

def EngineCall.isNext : EngineCall π → Bool
  | .next => true
  | _ => false

inductive EngineReply where
  | registered (result : Outcome RegisterFault Handle)
  | opened (result : Outcome OpenFault Unit)
  | stepped (result : Except Panic Status)
  | done

def EngineReply.opens : EngineReply → Bool
  | .opened (.ok _) => true
  | _ => false

section Operations
variable [Plugin π ι]

def Engine.perform (g : Engine ι) (h : Host π) : EngineCall π → EngineReply × Engine ι × Host π
  | .register plugin config =>
    let (result, g, h) := g.register h plugin config
    (.registered result, g, h)
  | .openCapture file =>
    let (result, g) := g.openCapture file
    (.opened (.ofExcept result), g, h)
  | .openPlugin name params platform =>
    let (result, g, h) := g.openPlugin h name params platform
    (.opened result, g, h)
  | .next =>
    let (result, g, h) := g.next h
    (.stepped result, g, h)
  | .stop => (.done, g.stop h)
  | .shutdown => (.done, g.shutdown h)

/-- An operation, and the state in which it is called. -/
structure Turn (π ι : Type) where
  engine : Engine ι
  host : Host π
  call : EngineCall π

namespace Turn

def reply (t : Turn π ι) : EngineReply :=
  (t.engine.perform t.host t.call).1

def after (t : Turn π ι) : Engine ι :=
  (t.engine.perform t.host t.call).2.1

def left (t : Turn π ι) : Host π :=
  (t.engine.perform t.host t.call).2.2

def calls (t : Turn π ι) : List Call :=
  t.left.journal.toList.drop t.host.journal.size

end Turn

/-- From one state of an engine and its process to a later one. All that the rest of the process is
known to do is that it never gives up a slot. -/
inductive Engine.Run (g₀ : Engine ι) (h₀ : Host π) : Engine ι → Host π → List (Turn π ι) → Prop where
  | start : Run g₀ h₀ g₀ h₀ []
  | elsewhere (h' : Host π) : Run g₀ h₀ g h turns →
      h.slots.map Slot.manifest <+: h'.slots.map Slot.manifest → Run g₀ h₀ g h' turns
  | call (c : EngineCall π) : Run g₀ h₀ g h turns →
      Run g₀ h₀ (g.perform h c).2.1 (g.perform h c).2.2 (⟨g, h, c⟩ :: turns)

namespace Engine
variable {g₀ g : Engine ι} {h₀ h : Host π} {turns newer older : List (Turn π ι)} {t : Turn π ι}

/-- A turn of a run was taken in a state of the run, and what follows is a run from there. -/
theorem Run.split (run : Run g₀ h₀ g h (newer ++ t :: older)) :
    Run g₀ h₀ t.engine t.host older ∧ Run t.after t.left g h newer := by
  generalize whole : newer ++ t :: older = turns at run
  induction run generalizing newer with
  | start => simp at whole
  | elsewhere h' run later ih =>
    obtain ⟨before, rest⟩ := ih whole
    exact ⟨before, .elsewhere h' rest later⟩
  | call c run ih =>
    cases newer with
    | nil =>
      obtain ⟨rfl, rfl⟩ := List.cons.inj whole
      exact ⟨run, .start⟩
    | cons u newer =>
      obtain ⟨rfl, rest⟩ := List.cons.inj whole
      obtain ⟨before, later⟩ := ih rest
      exact ⟨before, .call c later⟩

/-- Makes calls one after the other. -/
def play (g : Engine ι) (h : Host π) (turns : List (Turn π ι)) :
    List (EngineCall π) → Engine ι × Host π × List (Turn π ι)
  | [] => (g, h, turns)
  | c :: rest =>
    play (g.perform h c).2.1 (g.perform h c).2.2 (⟨g, h, c⟩ :: turns) rest

theorem Run.play (run : Run g₀ h₀ g h turns) (calls : List (EngineCall π)) :
    Run g₀ h₀ (g.play h turns calls).1 (g.play h turns calls).2.1 (g.play h turns calls).2.2 := by
  induction calls generalizing g h turns with
  | nil => exact run
  | cons c rest ih => exact ih (run.call c)

theorem perform_continues (g : Engine ι) (h : Host π) (c : EngineCall π) :
    h.Continues (g.perform h c).2.2 := by
  cases c with
  | register plugin config => exact g.register_continues h plugin config
  | openCapture file => exact .refl h
  | openPlugin name params platform => exact g.openPlugin_continues h name params platform
  | next => exact g.next_continues h
  | stop => exact g.shutdown_continues h
  | shutdown => exact g.shutdown_continues h

end Engine

end Operations

/-! ## Calls into plugins -/

/-- Whether a call sets a plugin or a source of it up, or ends a source. -/
def Action.manages : Action → Bool
  | .init _ => true
  | .openSource _ => true
  | .close => true
  | _ => false

/-- A later state of a process in which only calls of a certain kind were entered. -/
def Host.Enters (kind : Action → Bool) (h h' : Host π) : Prop :=
  ∃ calls, h'.journal.toList = h.journal.toList ++ calls ∧ ∀ c ∈ calls, kind c.action = true

section Calls
variable {kind : Action → Bool} {h h' : Host π}

theorem Host.Enters.refl (kind : Action → Bool) (h : Host π) : h.Enters kind h :=
  ⟨[], by simp, by simp⟩

theorem Host.Makes.enters (makes : h.Makes (fun _ action => kind action = true) h') :
    h.Enters kind h' := by
  obtain ⟨calls, entered, made⟩ := makes
  refine ⟨calls, entered, ?_⟩
  intro c called
  obtain ⟨_, _, allowed⟩ := made c called
  exact allowed

variable [Plugin π ι]

/-- Apart from steps, operations call plugins only to make them and to open and close sources. -/
theorem Engine.perform_enters (g : Engine ι) (h : Host π) {c : EngineCall π}
    (rest : c.isNext = false) : h.Enters Action.manages (g.perform h c).2.2 := by
  apply Host.Makes.enters
  cases c with
  | register plugin config => exact g.registry.register_makes h plugin config rfl
  | openCapture file => exact .refl _ h
  | openPlugin name params platform => exact g.openPlugin_makes h name params platform fun _ _ _ _ _ => rfl
  | next => cases rest
  | stop => exact g.stop_makes h fun _ _ => rfl
  | shutdown => exact g.stop_makes h fun _ _ => rfl

theorem Turn.calls_of_journal {t : Turn π ι} {calls : List Call}
    (entered : t.left.journal.toList = t.host.journal.toList ++ calls) : t.calls = calls := by
  have size : t.host.journal.size = t.host.journal.toList.length := by simp
  rw [Turn.calls, entered, size, List.drop_left]

theorem Turn.calls_manage {t : Turn π ι} (rest : t.call.isNext = false) :
    ∀ c ∈ t.calls, c.action.manages = true := by
  obtain ⟨calls, entered, managing⟩ := t.engine.perform_enters t.host rest
  rw [Turn.calls_of_journal entered]
  exact managing

end Calls

end EventProbe
