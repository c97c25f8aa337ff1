import EventProbe.Proofs.OpenedSources

/-! Histories of a plugin registry. Plugins are registered and all of them forgotten in any order, while
the rest of the process goes on. A registration may be refused, and making the plugin may fail or panic.
A history carries the log of its operations, newest first. -/
namespace EventProbe

/-- An operation on a registry as it is logged, a registration with its answer. -/
inductive RegistryEntry (π : Type) where
  | registered (plugin : Descriptor π) (config : String) (answer : Outcome RegisterFault Handle)
  | cleared

def RegistryEntry.granted? : RegistryEntry π → Option Handle
  | .registered _ _ (.ok p) => some p
  | _ => none

def RegistryEntry.clears : RegistryEntry π → Bool
  | .registered .. => false
  | .cleared => true

/-- A plugin that can do something, under a name that none of the held plugins has. -/
structure Descriptor.Eligible (held : List Handle) (d : Descriptor π) : Prop where
  capable : ∃ c, d.manifest.can c = true
  free : d.manifest.name ∉ held.map Handle.name

namespace Registry

/-- Why a plugin is not registered beside those that are held: the first of these reasons that there
is. -/
inductive Refusal (held : List Handle) (d : Descriptor π) (config : String) : RegisterFault → Prop where
  | noCapabilities : (∀ c, d.manifest.can c = false) →
      Refusal held d config (.noCapabilities d.manifest.name)
  | duplicate : (∃ c, d.manifest.can c = true) → d.manifest.name ∈ held.map Handle.name →
      Refusal held d config (.duplicate d.manifest.name)
  | refused : d.Eligible held → d.init config = .failed message →
      Refusal held d config (.refused d.manifest.name message)

/-- What a registration beside the held plugins answers, and what it leaves. -/
structure Answers (held : List Handle) (r : Registry) (h : Host π) (d : Descriptor π) (config : String)
    (answer : Outcome RegisterFault Handle) (r' : Registry) (h' : Host π) : Prop where
  refused : ∀ fault, answer = .failed fault ↔ Refusal held d config fault
  panicked : ∀ panic, answer = .panicked panic ↔ d.Eligible held ∧ d.init config = .panicked panic
  registered : (∃ p, answer = .ok p) ↔ d.Eligible held ∧ ∃ state, d.init config = .ok state
  /-- An eligible plugin is made, which is the one call of a plugin. -/
  made : d.Eligible held →
    h'.journal = h.journal.push ⟨h.slots.length, d.manifest.name, .init config⟩
  /-- No other is, and nothing happens at all. -/
  untouched : ¬ d.Eligible held → h' = h
  kept : (∀ p, answer ≠ .ok p) → r' = r
  /-- A free name can be registered later, after a registration under it has failed. -/
  reusable : (∀ p, answer ≠ .ok p) → d.manifest.name ∉ held.map Handle.name →
    ∀ (d' : Descriptor π) (config' : String) (later : Host π),
      d'.manifest.name = d.manifest.name → (∃ c, d'.manifest.can c = true) →
      (∃ state, d'.init config' = .ok state) → ∃ p, (r'.register later d' config').1 = .ok p

section Calls
variable {r : Registry} {h : Host π} {d : Descriptor π} {config : String}

/-- A registration is refused for the manifest or for the name, or else the plugin is made. -/
theorem register_branches (r : Registry) (h : Host π) (d : Descriptor π) (config : String) :
    (∀ c, d.manifest.can c = false) ∧
        r.register h d config = (.failed (.noCapabilities d.manifest.name), r, h) ∨
      (∃ c, d.manifest.can c = true) ∧ d.manifest.name ∈ r.names ∧
        r.register h d config = (.failed (.duplicate d.manifest.name), r, h) ∨
      d.Eligible r.plugins ∧ r.register h d config =
        let entered := h.record h.slots.length d.manifest.name (.init config)
        let handle : Handle := ⟨h.slots.length, d.manifest⟩
        match d.init config with
        | .failed message => (.failed (.refused d.manifest.name message), r, entered)
        | .panicked panic => (.panicked panic, r, entered)
        | .ok state => (.ok handle, ⟨r.plugins ++ [handle]⟩,
            { entered with slots := entered.slots ++ [⟨d.manifest, state⟩] }) := by
  have attempt := r.register_attempt h d config
  generalize r.register h d config = answer at attempt
  cases attempt with
  | incapable none => exact .inl ⟨none, rfl⟩
  | taken capable taken => exact .inr (.inl ⟨capable, taken, rfl⟩)
  | refused capable free made | panicked capable free made =>
    exact .inr (.inr ⟨⟨capable, free⟩, by simp only [made]⟩)
  | held capable free made =>
    refine .inr (.inr ⟨⟨capable, free⟩, ?_⟩)
    simp only [made]
    rfl

theorem register_of_eligible (eligible : d.Eligible r.plugins) (h : Host π) (config : String) :
    r.register h d config =
      let entered := h.record h.slots.length d.manifest.name (.init config)
      let handle : Handle := ⟨h.slots.length, d.manifest⟩
      match d.init config with
      | .failed message => (.failed (.refused d.manifest.name message), r, entered)
      | .panicked panic => (.panicked panic, r, entered)
      | .ok state => (.ok handle, ⟨r.plugins ++ [handle]⟩,
          { entered with slots := entered.slots ++ [⟨d.manifest, state⟩] }) := by
  obtain ⟨none, _⟩ | ⟨_, taken, _⟩ | ⟨_, same⟩ := r.register_branches h d config
  · obtain ⟨c, can⟩ := eligible.capable
    simp [none c] at can
  · exact absurd taken eligible.free
  · exact same

theorem register_eligible (eligible : d.Eligible r.plugins) (h : Host π) {state : π}
    (made : d.init config = .ok state) :
    (r.register h d config).1 = .ok ⟨h.slots.length, d.manifest⟩ := by
  rw [register_of_eligible eligible, made]

section Refusals
variable {held : List Handle} {fault : RegisterFault}

theorem refusal_of_incapable (none : ∀ c, d.manifest.can c = false) :
    Refusal held d config fault ↔ fault = .noCapabilities d.manifest.name := by
  constructor
  · rintro (_ | ⟨⟨c, can⟩, _⟩ | ⟨⟨⟨c, can⟩, _⟩, _⟩)
    · rfl
    · simp [none c] at can
    · simp [none c] at can
  · rintro rfl
    exact .noCapabilities none

theorem refusal_of_taken (capable : ∃ c, d.manifest.can c = true)
    (taken : d.manifest.name ∈ held.map Handle.name) :
    Refusal held d config fault ↔ fault = .duplicate d.manifest.name := by
  constructor
  · rintro (none | _ | ⟨eligible, _⟩)
    · obtain ⟨c, can⟩ := capable
      simp [none c] at can
    · rfl
    · exact absurd taken eligible.free
  · rintro rfl
    exact .duplicate capable taken

theorem refusal_of_eligible (eligible : d.Eligible held) : Refusal held d config fault ↔
    ∃ message, d.init config = .failed message ∧ fault = .refused d.manifest.name message := by
  constructor
  · rintro (none | ⟨_, taken⟩ | ⟨_, failed⟩)
    · obtain ⟨c, can⟩ := eligible.capable
      simp [none c] at can
    · exact absurd taken eligible.free
    · exact ⟨_, failed, rfl⟩
  · rintro ⟨message, failed, rfl⟩
    exact .refused eligible failed

end Refusals

theorem register_kept (failed : ∀ p, (r.register h d config).1 ≠ .ok p) :
    (r.register h d config).2.1 = r := by
  obtain ⟨_, same, _⟩ | ⟨_, _, same, _⟩ := r.register_cases h d config
  · exact same
  · exact absurd (congrArg Prod.fst same) (failed _)

/-- What a registration answers is decided by the manifest, the held names and the making of the plugin,
in this order. -/
theorem answers (r : Registry) (h : Host π) (d : Descriptor π) (config : String) :
    Answers r.plugins r h d config (r.register h d config).1 (r.register h d config).2.1
      (r.register h d config).2.2 := by
  have reusable : (∀ p, (r.register h d config).1 ≠ .ok p) → d.manifest.name ∉ r.names →
      ∀ (d' : Descriptor π) (config' : String) (later : Host π),
        d'.manifest.name = d.manifest.name → (∃ c, d'.manifest.can c = true) →
        (∃ state, d'.init config' = .ok state) →
        ∃ p, ((r.register h d config).2.1.register later d' config').1 = .ok p := by
    rintro failed free d' config' later named capable ⟨state, made⟩
    rw [register_kept failed]
    exact ⟨_, register_eligible ⟨capable, named ▸ free⟩ later made⟩
  refine ⟨?_, ?_, ?_, ?_, ?_, register_kept, reusable⟩
  all_goals
    obtain ⟨none, same⟩ | ⟨capable, taken, same⟩ | ⟨eligible, same⟩ := r.register_branches h d config
    case inl =>
      have ineligible : ¬ d.Eligible r.plugins := by
        rintro ⟨⟨c, can⟩, _⟩
        simp [none c] at can
      simp [same, ineligible, refusal_of_incapable none, eq_comm]
    case inr.inl =>
      have ineligible : ¬ d.Eligible r.plugins := fun eligible => eligible.free taken
      simp [same, ineligible, refusal_of_taken capable taken, eq_comm]
    case inr.inr =>
      rw [same]
      cases made : d.init config <;>
        simp [made, eligible, refusal_of_eligible eligible, Host.record, eq_comm]

end Calls

/-! ## Histories -/

def granted (log : List (RegistryEntry π)) : List Handle :=
  log.reverse.filterMap RegistryEntry.granted?

def sinceClear (log : List (RegistryEntry π)) : List (RegistryEntry π) :=
  log.takeWhile (!·.clears)

/-- The states of a registry that was empty, with the process. All that the rest of the process is
known to do is that it never gives up a slot. -/
inductive Run : Registry → Host π → List (RegistryEntry π) → Prop where
  | start (h : Host π) : Run empty h []
  | elsewhere (h' : Host π) : Run r h log →
      h.slots.map Slot.manifest <+: h'.slots.map Slot.manifest → Run r h' log
  | register (d : Descriptor π) (config : String) : Run r h log →
      Run (r.register h d config).2.1 (r.register h d config).2.2
        (.registered d config (r.register h d config).1 :: log)
  | clear : Run r h log → Run r.clear h (.cleared :: log)

section Histories
variable {r : Registry} {h h' : Host π} {log newer older : List (RegistryEntry π)} {p : Handle}

theorem granted_cons (entry : RegistryEntry π) (log : List (RegistryEntry π)) :
    granted (entry :: log) = granted log ++ entry.granted?.toList := by
  simp only [granted, List.reverse_cons, List.filterMap_append]
  cases gave : entry.granted? <;> simp [gave]

theorem granted_append (newer older : List (RegistryEntry π)) :
    granted (newer ++ older) = granted older ++ granted newer := by
  simp [granted]

theorem mem_granted : p ∈ granted log ↔ ∃ d config, .registered d config (.ok p) ∈ log := by
  simp only [granted, List.mem_filterMap, List.mem_reverse]
  constructor
  · rintro ⟨entry, logged, gave⟩
    cases entry with
    | cleared => cases gave
    | registered d config answer =>
      cases answer with
      | ok q =>
        cases gave
        exact ⟨d, config, logged⟩
      | failed | panicked => cases gave
  · rintro ⟨d, config, logged⟩
    exact ⟨_, logged, rfl⟩

/-- What the log of a history tells of its registry and of the process. -/
structure Recorded (r : Registry) (h : Host π) (log : List (RegistryEntry π)) : Prop where
  plugins : r.plugins = granted (sinceClear log)
  distinct : r.names.Nodup
  houses : h.Houses (granted log)
  declared : ∀ d config p, .registered d config (.ok p) ∈ log → p.manifest = d.manifest

namespace Recorded

theorem register (recorded : Recorded r h log) (d : Descriptor π) (config : String) :
    Recorded (r.register h d config).2.1 (r.register h d config).2.2
      (.registered d config (r.register h d config).1 :: log) := by
  have continues := r.register_continues h d config
  have distinct := register_distinct recorded.distinct h d config
  have since : sinceClear (.registered d config (r.register h d config).1 :: log) =
      .registered d config (r.register h d config).1 :: sinceClear log := rfl
  obtain ⟨failed, same, slots⟩ | ⟨h', state, answer, slots, _⟩ := r.register_cases h d config
  · have silent : (RegistryEntry.registered d config (r.register h d config).1).granted? = none := by
      cases result : (r.register h d config).1 with
      | ok p => exact absurd result (failed p)
      | failed | panicked => rfl
    refine ⟨?_, distinct, ?_, ?_⟩
    · rw [since, granted_cons, silent, same, recorded.plugins]
      simp
    · rw [granted_cons, silent]
      simpa using recorded.houses.later continues.manifests
    · intro d' config' p logged
      obtain own | earlier := List.mem_cons.mp logged
      · injection own with _ _ answer
        exact absurd answer.symm (failed p)
      · exact recorded.declared d' config' p earlier
  · rw [answer] at continues distinct since ⊢
    have later := recorded.houses.later continues.manifests
    have holds : h'.Holds ⟨h.slots.length, d.manifest⟩ := by simp [Host.Holds, slots]
    refine ⟨?_, distinct, ⟨?_, ?_⟩, ?_⟩
    · rw [since, granted_cons, ← recorded.plugins]
      rfl
    · rw [granted_cons, List.pairwise_append]
      refine ⟨later.distinct, List.pairwise_singleton _ _, ?_⟩
      intro p before q own
      rw [List.mem_singleton.mp own]
      exact Nat.ne_of_lt (recorded.houses.held p before).lt
    · intro p given
      rw [granted_cons] at given
      obtain before | own := List.mem_append.mp given
      · exact later.held p before
      · rw [List.mem_singleton.mp own]
        exact holds
    · intro d' config' p logged
      obtain own | earlier := List.mem_cons.mp logged
      · cases own
        rfl
      · exact recorded.declared d' config' p earlier

theorem clear (recorded : Recorded r h log) : Recorded r.clear h (.cleared :: log) where
  plugins := rfl
  distinct := .nil
  houses := by
    have silent : (RegistryEntry.cleared : RegistryEntry π).granted? = none := rfl
    rw [granted_cons, silent]
    simpa using recorded.houses
  declared d config p logged := by
    obtain own | earlier := List.mem_cons.mp logged
    · cases own
    · exact recorded.declared d config p earlier

end Recorded

theorem Run.recorded (run : Run r h log) : Recorded r h log := by
  induction run with
  | start h => exact ⟨rfl, .nil, ⟨.nil, by simp [granted]⟩, by simp⟩
  | elsewhere h' run later ih => exact ⟨ih.plugins, ih.distinct, ih.houses.later later, ih.declared⟩
  | register d config run ih => exact ih.register d config
  | clear run ih => exact ih.clear

/-- A registry holds what was registered since its plugins were last forgotten, and finds it by name.
No two registrations ever gave the same plugin, whatever was forgotten in between. -/
theorem Run.holds_registered (run : Run r h log) :
    let held := granted (sinceClear log)
    r.plugins = held ∧ (held.map Handle.name).Nodup ∧
      (∀ name p, r.find? name = some p ↔
        ∃ d config, .registered d config (.ok p) ∈ sinceClear log ∧ d.manifest.name = name) ∧
      (granted log).Pairwise (fun p q => p.same q = false) ∧ (∀ p ∈ granted log, h.Holds p) ∧
      (∀ newer older, log = newer ++ .cleared :: older →
        ∀ p ∈ granted newer, ∀ q ∈ granted older, p.same q = false) ∧
      ∀ d config, Answers held r h d config (r.register h d config).1 (r.register h d config).2.1
        (r.register h d config).2.2 := by
  have recorded := run.recorded
  have apart : (granted log).Pairwise (fun p q => p.same q = false) := by
    refine recorded.houses.distinct.imp ?_
    intro p q other
    simpa [Handle.same] using other
  have named : ∀ name p, (p ∈ r.plugins ∧ p.name = name) ↔
      ∃ d config, .registered d config (.ok p) ∈ sinceClear log ∧ d.manifest.name = name := by
    have within : sinceClear log ⊆ log := (List.takeWhile_prefix _).subset
    intro name p
    rw [recorded.plugins, mem_granted]
    constructor
    · rintro ⟨⟨d, config, logged⟩, rfl⟩
      exact ⟨d, config, logged, congrArg Manifest.name (recorded.declared d config p (within logged)).symm⟩
    · rintro ⟨d, config, logged, rfl⟩
      exact ⟨⟨d, config, logged⟩, congrArg Manifest.name (recorded.declared d config p (within logged))⟩
  refine ⟨recorded.plugins, ?_, ?_, apart, recorded.houses.held, ?_, ?_⟩
  · rw [← recorded.plugins]
    exact recorded.distinct
  · intro name p
    rw [← named]
    constructor
    · intro found
      have same := List.find?_some found
      exact ⟨List.mem_of_find?_eq_some found, eq_of_beq same⟩
    · rintro ⟨known, rfl⟩
      exact find?_of_mem recorded.distinct known
  · rintro newer older rfl p after q before
    rw [granted_append, granted_cons, List.pairwise_append] at apart
    have other := apart.2.2 q (List.mem_append_left _ before) p after
    rwa [Handle.same, Bool.beq_comm] at other
  · intro d config
    rw [← recorded.plugins]
    exact r.answers h d config

/-- Registers plugins, and forgets all of them where none is given. -/
def play (r : Registry) (h : Host π) (log : List (RegistryEntry π)) :
    List (Option (Descriptor π × String)) → Registry × Host π × List (RegistryEntry π)
  | [] => (r, h, log)
  | none :: rest => play r.clear h (.cleared :: log) rest
  | some (d, config) :: rest =>
    play (r.register h d config).2.1 (r.register h d config).2.2
      (.registered d config (r.register h d config).1 :: log) rest

theorem Run.play (run : Run r h log) (calls : List (Option (Descriptor π × String))) :
    Run (r.play h log calls).1 (r.play h log calls).2.1 (r.play h log calls).2.2 := by
  induction calls generalizing r h log with
  | nil => exact run
  | cons call rest ih =>
    cases call with
    | none => exact ih run.clear
    | some call => exact ih (run.register call.1 call.2)

end Histories

/-- A plugin that first does not accept its configuration, then is registered, and is registered once
more after all were forgotten. -/
def reregistering : Registry × Host Bundled × List (RegistryEntry Bundled) :=
  empty.play (Host.fresh .bare) [] [some (Bundled.strict, ""), some (Bundled.strict, "testing"), none,
    some (Bundled.strict, "testing")]

theorem reregistering_holds : Run reregistering.1 reregistering.2.1 reregistering.2.2 ∧
    reregistering.1.find? "dummy" = some ⟨1, Bundled.strict.manifest⟩ ∧
    granted reregistering.2.2 = [⟨0, Bundled.strict.manifest⟩, ⟨1, Bundled.strict.manifest⟩] ∧
    (reregistering.1.register reregistering.2.1 Bundled.strict "testing").1 =
      .failed (.duplicate "dummy") := by
  have run : Run reregistering.1 reregistering.2.1 reregistering.2.2 := .play (.start _) _
  obtain ⟨_, _, find, _, _, _, answers⟩ := Run.holds_registered run
  refine ⟨run, ?_, by decide +kernel, ?_⟩
  · rw [find]
    exact ⟨Bundled.strict, "testing", List.mem_singleton.mpr rfl, rfl⟩
  · rw [(answers Bundled.strict "testing").refused]
    exact .duplicate ⟨.eventSourcing, rfl⟩ (by decide +kernel)

end Registry

end EventProbe
