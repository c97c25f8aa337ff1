import EventProbe.Proofs.CaptureState
import EventProbe.Proofs.PluginSlots

/-! The plugins that the engine of a driver knows are those that the driver has registered, in this
order, and each of them has a slot of its own in the process. -/
namespace EventProbe

def Reply.registered? : Reply → Option Handle
  | .registered (.ok p) => some p
  | _ => none

/-- The plugins that the calls of a driver have registered, oldest first. -/
def registeredBy (i : Nat) (log : List (Exchange π)) : List Handle :=
  log.reverse.filterMap fun x => if x.driver = i then x.reply.registered? else none

section Logs
variable {i : Nat} {x : Exchange π} {log newer older : List (Exchange π)}

theorem registeredBy_own (i : Nat) (c : DriverCall π) (reply : Reply) (delivered : Option Event) :
    registeredBy i (⟨i, c, reply, delivered⟩ :: log) =
      registeredBy i log ++ reply.registered?.toList := by
  simp only [registeredBy, List.reverse_cons, List.filterMap_append]
  cases registered : reply.registered? <;> simp [registered]

theorem registeredBy_other (other : x.driver ≠ i) : registeredBy i (x :: log) = registeredBy i log := by
  simp [registeredBy, other]

/-- Later calls forget no plugin. -/
theorem registeredBy_grows (i : Nat) (newer older : List (Exchange π)) :
    registeredBy i older ⊆ registeredBy i (newer ++ older) := by
  simp [registeredBy]

theorem registeredBy_eq_nil (unlogged : ∀ x ∈ log, x.driver ≠ i) : registeredBy i log = [] := by
  apply List.filterMap_eq_nil_iff.mpr
  intro x logged
  rw [if_neg (unlogged x (List.mem_reverse.mp logged))]

end Logs

/-- A registry never takes a second plugin of one name. -/
theorem Registry.register_distinct {r : Registry} (distinct : r.names.Nodup) (h : Host π)
    (d : Descriptor π) (config : String) : (r.register h d config).2.1.names.Nodup := by
  have attempt := r.register_attempt h d config
  generalize r.register h d config = answer at attempt
  cases attempt with
  | incapable | taken | refused | panicked => exact distinct
  | held _ free _ =>
    rw [names, List.map_append, List.map_singleton, List.nodup_append]
    refine ⟨distinct, List.pairwise_singleton _ _, ?_⟩
    rintro name known _ new rfl
    rw [List.mem_singleton.mp new] at known
    exact free known

namespace Driver
variable [Plugin π ι] {d : Driver ι} {h : Host π}

theorem openCapture_registry (d : Driver ι) (file : Except IoFault (List UInt8)) :
    (d.openCapture file).2.engine.registry = d.engine.registry := by
  cases state : d.state with
  | capturing => rw [openCapture_of_capturing state]
  | idle =>
    obtain ⟨fault, _, same⟩ | ⟨g, opened, same⟩ := openCapture_of_idle state file
    · rw [same]
    · obtain ⟨_, _, _, _, rfl⟩ := Engine.openCapture_starts opened
      simp only [same, Engine.start]

theorem openPlugin_registry (d : Driver ι) (h : Host π) (name params : String) (platform : Bool) :
    (d.openPlugin h name params platform).2.1.engine.registry = d.engine.registry := by
  cases state : d.state with
  | capturing => rw [openPlugin_of_capturing state]
  | idle =>
    obtain ⟨_, _, _, same⟩ | ⟨_, _, _, same⟩ | ⟨g, h', opened, same⟩ :=
      openPlugin_of_idle state h name params platform
    · rw [same]
    · rw [same]
    · obtain ⟨_, _, _, _, _, _, _, rfl⟩ := Engine.openPlugin_starts opened
      simp only [same, Engine.start]

/-- Only registrations change which plugins an engine knows. -/
theorem perform_registry (d : Driver ι) (h : Host π) {c : DriverCall π}
    (rest : ∀ plugin config, c ≠ .register plugin config) :
    (d.perform h c).2.1.engine.registry = d.engine.registry ∧
      (d.perform h c).1.registered? = none := by
  cases c with
  | register plugin config => exact absurd rfl (rest plugin config)
  | addExtractors plugin source =>
    refine ⟨?_, rfl⟩
    obtain ⟨others, changed⟩ := d.addExtractors_driver plugin source
    simp only [perform, changed]
  | openCapture file => exact ⟨d.openCapture_registry file, rfl⟩
  | openPlugin name params platform => exact ⟨d.openPlugin_registry h name params platform, rfl⟩
  | next =>
    refine ⟨?_, rfl⟩
    cases state : d.state with
    | idle => simp only [perform, next_of_idle state]
    | capturing =>
      simp only [perform, next_of_capturing state]
      exact (d.engine.next_advances h).registry_eq
  | extractText field handle =>
    refine ⟨?_, rfl⟩
    obtain ⟨others, changed⟩ := d.prepare_driver field handle
    simp only [perform, extractText_driver, changed]
  | extractWithOffsets field handle =>
    refine ⟨?_, rfl⟩
    obtain ⟨others, changed⟩ := d.prepare_driver field handle
    simp only [perform, extractWithOffsets_driver, changed]
  | metrics => exact ⟨rfl, rfl⟩

/-- What a call does to the list of plugins of the engine. -/
theorem perform_registers (d : Driver ι) (h : Host π) (c : DriverCall π) :
    (d.perform h c).2.1.engine.registry.plugins =
        d.engine.registry.plugins ++ (d.perform h c).1.registered?.toList ∧
      ∃ reply, d.engine.Registers h reply (d.perform h c).2.1.engine.registry.plugins
        (d.perform h c).2.2 := by
  by_cases registers : ∃ plugin config, c = .register plugin config
  · obtain ⟨plugin, config, rfl⟩ := registers
    obtain ⟨failed, same, _⟩ | ⟨h', state, answer, slots, _⟩ :=
      d.engine.registry.register_cases h plugin config
    · simp only [perform, register, Engine.register, same]
      constructor
      · cases result : (d.engine.registry.register h plugin config).1 with
        | ok p => exact absurd result (failed p)
        | _ => simp [Outcome.mapReason, Reply.registered?]
      · exact ⟨.done, .kept⟩
    · simp only [perform, register, Engine.register, answer]
      constructor
      · rfl
      · refine ⟨_, .added _ rfl ?_⟩
        simp [Host.Holds, slots]
  · have rest : ∀ plugin config, c ≠ .register plugin config :=
      fun plugin config same => registers ⟨plugin, config, same⟩
    obtain ⟨same, none⟩ := d.perform_registry h rest
    rw [same, none]
    exact ⟨by simp, .done, .kept⟩

end Driver

namespace Process
variable [Plugin π ι] {p : Process π ι} {log : List (Exchange π)} {d : Driver ι} {i : Nat}

theorem Run.plugins_eq (run : Run p log) (there : p.driver? i = some d) :
    d.engine.registry.plugins = registeredBy i log := by
  refine Run.tracks (fun i log d => d.engine.registry.plugins = registeredBy i log) ?_ ?_ ?_ run there
  · intro i log id hostname flags unlogged
    rw [registeredBy_eq_nil unlogged]
    rfl
  · intro i log d h c known
    rw [(d.perform_registers h c).1, registeredBy_own, known]
  · intro i log d x other known
    rw [registeredBy_other other, known]

theorem Run.names_distinct (run : Run p log) (there : p.driver? i = some d) :
    ((registeredBy i log).map Handle.name).Nodup := by
  rw [← run.plugins_eq there]
  refine run.driver_holds (fun d => d.engine.registry.names.Nodup) ?_ ?_ there
  · intro id hostname flags
    exact .nil
  · intro d h c distinct
    by_cases registers : ∃ plugin config, c = .register plugin config
    · obtain ⟨plugin, config, rfl⟩ := registers
      exact Registry.register_distinct distinct h plugin config
    · rw [(d.perform_registry h fun plugin config same => registers ⟨plugin, config, same⟩).1]
      exact distinct

theorem Run.houses (run : Run p log) (there : p.driver? i = some d) :
    p.host.Houses (registeredBy i log) := by
  rw [← run.plugins_eq there]
  refine Run.tracks_in (fun _ _ h d => h.Houses d.engine.registry.plugins) ?_ ?_ ?_ ?_ run there
  · intro i log h id hostname flags unlogged
    exact ⟨.nil, by simp [Engine.fresh, Registry.empty]⟩
  · intro i log h h' d later houses
    exact houses.later later
  · intro i p log d c run alive houses
    obtain ⟨reply, registers⟩ := (d.perform_registers p.host c).2
    exact houses.registers registers (d.perform_continues p.host c)
  · intro i log h d x other houses
    exact houses

end Process

end EventProbe
