import EventProbe.Proofs.EngineRuns

/-! The slots of the plugins that an engine knows. A registration takes a new slot of the process, so
that the plugins of an engine are different ones. -/
namespace EventProbe

def Host.Holds (h : Host π) (p : Handle) : Prop :=
  (h.slots.map Slot.manifest)[p.slot]? = some p.manifest

/-- The plugins have pairwise different slots in the process. -/
structure Host.Houses (h : Host π) (plugins : List Handle) : Prop where
  distinct : plugins.Pairwise (fun p q => p.slot ≠ q.slot)
  held : ∀ p ∈ plugins, h.Holds p

section Slots
variable {h h' : Host π} {p : Handle} {plugins rest : List Handle}

theorem Host.Holds.lt (holds : h.Holds p) : p.slot < h.slots.length := by
  obtain ⟨bound, _⟩ := List.getElem?_eq_some_iff.mp holds
  simpa using bound

theorem Host.Holds.later (holds : h.Holds p)
    (later : h.slots.map Slot.manifest <+: h'.slots.map Slot.manifest) : h'.Holds p := by
  obtain ⟨new, whole⟩ := later
  have old : p.slot < (h.slots.map Slot.manifest).length := by simpa using holds.lt
  unfold Host.Holds
  rw [← whole, List.getElem?_append_left old]
  exact holds

theorem Host.slots_le (later : h.slots.map Slot.manifest <+: h'.slots.map Slot.manifest) :
    h.slots.length ≤ h'.slots.length := by
  simpa using later.length_le

/-- A call of a plugin leaves the slots of the others as they are. -/
theorem Host.call_other (h : Host π) {slot other : Nat} (ne : slot ≠ other) (action : Action)
    (absent : α) (run : π → α × π) :
    (h.call slot action absent run).2.slots[other]? = h.slots[other]? := by
  unfold call
  cases h.slots[slot]? with
  | none => rfl
  | some s => exact List.getElem?_set_ne ne

/-- The answer to a call depends on the slot of the plugin only. -/
theorem Host.call_answer {slot : Nat} (same : h.slots[slot]? = h'.slots[slot]?) (action : Action)
    (absent : α) (run : π → α × π) :
    (h.call slot action absent run).1 = (h'.call slot action absent run).1 := by
  unfold call
  rw [same]
  cases h'.slots[slot]? <;> rfl

theorem Host.Houses.later (houses : h.Houses plugins)
    (later : h.slots.map Slot.manifest <+: h'.slots.map Slot.manifest) : h'.Houses plugins where
  distinct := houses.distinct
  held p registered := (houses.held p registered).later later

theorem Host.Houses.tail (houses : h.Houses (p :: rest)) : h.Houses rest where
  distinct := (List.pairwise_cons.mp houses.distinct).2
  held q registered := houses.held q (List.mem_cons_of_mem p registered)

end Slots

/-! ## Registration -/

/-- What an operation does to the list of plugins. -/
inductive Engine.Registers (g : Engine ι) (h : Host π) : EngineReply → List Handle → Host π → Prop where
  | kept : Registers g h reply g.registry.plugins h'
  | cleared : Registers g h reply [] h'
  | added (p : Handle) : p.slot = h.slots.length → h'.Holds p →
      Registers g h (.registered (.ok p)) (g.registry.plugins ++ [p]) h'

section Registrations
variable {g g₀ : Engine ι} {h h' h₀ : Host π} {turns : List (Turn π ι)}

theorem Host.Houses.registers {plugins : List Handle} (houses : h.Houses g.registry.plugins)
    (registers : g.Registers h reply plugins h') (continues : h.Continues h') :
    h'.Houses plugins := by
  have later := houses.later continues.manifests
  cases registers with
  | kept => exact later
  | cleared => exact ⟨.nil, by simp⟩
  | added p slot holds =>
    constructor
    · rw [List.pairwise_append]
      refine ⟨houses.distinct, List.pairwise_singleton _ p, ?_⟩
      intro q registered r new
      rw [List.mem_singleton.mp new, slot]
      exact Nat.ne_of_lt (houses.held q registered).lt
    · intro q registered
      obtain old | new := List.mem_append.mp registered
      · exact later.held q old
      · rw [List.mem_singleton.mp new]
        exact holds

variable [Plugin π ι]

theorem Engine.perform_registers (g : Engine ι) (h : Host π) (c : EngineCall π) :
    g.Registers h (g.perform h c).1 (g.perform h c).2.1.registry.plugins (g.perform h c).2.2 := by
  cases c with
  | register plugin config =>
    obtain ⟨_, same, _⟩ | ⟨h', state, answer, slots, _⟩ := g.registry.register_cases h plugin config
    · simp only [Engine.perform, Engine.register, same]
      exact .kept
    · simp only [Engine.perform, Engine.register, answer]
      apply Registers.added
      · rfl
      · simp [Host.Holds, slots]
  | openCapture file =>
    rcases g.openCapture_cases file with ⟨fault, refused⟩ | ⟨_, _, _, _, _, started⟩
    · simp only [Engine.perform, refused]
      exact .kept
    · simp only [Engine.perform, started]
      exact .kept
  | openPlugin name params platform =>
    rcases g.openPlugin_cases h name params platform with
      ⟨_, same⟩ | ⟨_, _, _, _, _, _, _, _, started⟩
    · simp only [Engine.perform, same]
      exact .kept
    · simp only [Engine.perform, started]
      exact .kept
  | next =>
    simp only [Engine.perform, (g.next_advances h).registry_eq]
    exact .kept
  | stop => exact .kept
  | shutdown => exact .cleared

namespace Engine

theorem Run.houses (run : Run g₀ h₀ g h turns) (houses : h₀.Houses g₀.registry.plugins) :
    h.Houses g.registry.plugins := by
  induction run with
  | start => exact houses
  | elsewhere h' run later ih => exact ih.later later
  | @call g h turns c run ih =>
    exact ih.registers (g.perform_registers h c) (g.perform_continues h c)

end Engine

end Registrations

end EventProbe
