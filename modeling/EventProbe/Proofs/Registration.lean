import EventProbe.Registry

/-! What comes of a registration. A plugin is made only if it can do something and its name is free, and
it is held only if it could be made. -/
namespace EventProbe.Registry

/-- A registration beside the plugins of a registry, with its answer, the registry and the process. -/
inductive Attempt (r : Registry) (h : Host π) (d : Descriptor π) (config : String) :
    Outcome RegisterFault Handle × Registry × Host π → Prop where
  | incapable : (∀ c, d.manifest.can c = false) →
      Attempt r h d config (.failed (.noCapabilities d.manifest.name), r, h)
  | taken : (∃ c, d.manifest.can c = true) → d.manifest.name ∈ r.names →
      Attempt r h d config (.failed (.duplicate d.manifest.name), r, h)
  | refused : (∃ c, d.manifest.can c = true) → d.manifest.name ∉ r.names →
      d.init config = .failed message →
      Attempt r h d config (.failed (.refused d.manifest.name message), r,
        h.record h.slots.length d.manifest.name (.init config))
  | panicked {panic : Panic} : (∃ c, d.manifest.can c = true) → d.manifest.name ∉ r.names →
      d.init config = .panicked panic →
      Attempt r h d config (.panicked panic, r,
        h.record h.slots.length d.manifest.name (.init config))
  | held : (∃ c, d.manifest.can c = true) → d.manifest.name ∉ r.names → d.init config = .ok state →
      Attempt r h d config (.ok ⟨h.slots.length, d.manifest⟩,
        ⟨r.plugins ++ [⟨h.slots.length, d.manifest⟩]⟩,
        { h.record h.slots.length d.manifest.name (.init config) with
          slots := h.slots ++ [⟨d.manifest, state⟩] })

variable {r : Registry}

theorem capable_iff {m : Manifest} : (∃ c, m.can c = true) ↔ m.capabilities.isEmpty = false := by
  simp only [Capabilities.isEmpty, Bool.and_eq_false_iff, Bool.not_eq_false']
  constructor
  · rintro ⟨c, has⟩
    cases c with
    | eventSourcing => exact .inl (.inl has)
    | fieldExtraction => exact .inl (.inr has)
    | eventParsing => exact .inr has
  · rintro ((has | has) | has)
    · exact ⟨.eventSourcing, has⟩
    · exact ⟨.fieldExtraction, has⟩
    · exact ⟨.eventParsing, has⟩

theorem find?_isSome {name : String} : (r.find? name).isSome = true ↔ name ∈ r.names := by
  simp [find?, names, List.find?_isSome]

theorem register_attempt (r : Registry) (h : Host π) (d : Descriptor π) (config : String) :
    r.Attempt h d config (r.register h d config) := by
  unfold register
  cases empty : d.manifest.capabilities.isEmpty with
  | true =>
    refine .incapable fun c => ?_
    cases can : d.manifest.can c with
    | false => rfl
    | true => simp [capable_iff.mp ⟨c, can⟩] at empty
  | false =>
    have capable := capable_iff.mpr empty
    rw [if_neg Bool.false_ne_true]
    by_cases taken : d.manifest.name ∈ r.names
    · rw [if_pos (find?_isSome.mpr taken)]
      exact .taken capable taken
    · rw [if_neg (mt find?_isSome.mp taken)]
      dsimp only
      cases made : d.init config with
      | failed message => exact .refused capable taken made
      | panicked panic => exact .panicked capable taken made
      | ok state => exact .held capable taken made

/-- A plugin is registered, in a slot of its own, or registry and slots are as they were. -/
theorem register_cases (r : Registry) (h : Host π) (d : Descriptor π) (config : String) :
    ((∀ p, (r.register h d config).1 ≠ .ok p) ∧ (r.register h d config).2.1 = r ∧
      (r.register h d config).2.2.slots = h.slots) ∨
    ∃ h' state, r.register h d config =
      (.ok ⟨h.slots.length, d.manifest⟩, ⟨r.plugins ++ [⟨h.slots.length, d.manifest⟩]⟩, h') ∧
      h'.slots = h.slots ++ [⟨d.manifest, state⟩] ∧ d.init config = .ok state := by
  have attempt := r.register_attempt h d config
  generalize r.register h d config = answer at attempt
  cases attempt with
  | incapable | taken => exact .inl ⟨by simp, rfl, rfl⟩
  | refused | panicked => exact .inl ⟨by simp, rfl, rfl⟩
  | held _ _ made => exact .inr ⟨_, _, rfl, rfl, made⟩

end EventProbe.Registry
