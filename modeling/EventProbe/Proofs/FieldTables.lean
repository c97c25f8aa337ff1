import EventProbe.Extraction

/-! Which factory accepts a field. A factory looks at the path of the field first, and then at whether
there is an argument, or which. -/
namespace EventProbe

/-- A field is the general field of this kind, and has an argument exactly if it takes one. -/
structure GenericField.Fits (kind : GenericField) (field : FieldName) : Prop where
  path : kind.path = field.path
  argument : kind.takesArgument = field.argument.isSome

/-- A field is the first one of this name in the table of a plugin, written in a form that it takes. -/
structure Handle.Declares (p : Handle) (field : FieldName) (id : Nat) (info : FieldInfo) : Prop where
  entry : p.manifest.fields[id]? = some info
  name : info.name = field.path
  first : ∀ j < id, ∀ other, p.manifest.fields[j]? = some other → other.name ≠ field.path
  argument : info.argument.accepts field = true

variable {field : FieldName} {x : Extractor} {p : Handle}

theorem GenericField.ofPath_eq_some_iff {kind : GenericField} {path : String} :
    ofPath path = some kind ↔ kind.path = path := by
  constructor
  · intro found
    exact eq_of_beq (List.find?_some (p := fun k : GenericField => k.path == path) found)
  · rintro rfl
    cases kind <;> decide

/-- A field is no general one if its path is that of none. -/
theorem GenericField.not_fits (foreign : ofPath field.path = none) (kind : GenericField) :
    ¬ kind.Fits field := by
  intro fits
  cases foreign.symm.trans (ofPath_eq_some_iff.mpr fits.path)

theorem Factory.generic_build_iff : generic.build field = some x ↔
    ∃ kind : GenericField, kind.Fits field ∧ x = .generic field kind := by
  simp only [generic]
  constructor
  · intro built
    split at built
    · rename_i kind found
      split at built
      · rename_i form
        cases built
        exact ⟨kind, ⟨GenericField.ofPath_eq_some_iff.mp found, form⟩, rfl⟩
      · cases built
    · cases built
  · rintro ⟨kind, fits, rfl⟩
    simp only [GenericField.ofPath_eq_some_iff.mpr fits.path, fits.argument, if_true]

theorem Manifest.findField_eq_some_iff {m : Manifest} {name : String} {id : Nat} {info : FieldInfo} :
    m.findField name = some (id, info) ↔ m.fields[id]? = some info ∧ info.name = name ∧
      ∀ j < id, ∀ other, m.fields[j]? = some other → other.name ≠ name := by
  unfold findField
  constructor
  · intro found
    split at found
    · rename_i position first
      obtain ⟨bound, hit, before⟩ := List.findIdx?_eq_some_iff_getElem.mp first
      obtain ⟨declared, place, same⟩ := Option.map_eq_some_iff.mp found
      cases same
      obtain ⟨_, rfl⟩ := List.getElem?_eq_some_iff.mp place
      refine ⟨place, eq_of_beq hit, ?_⟩
      intro j earlier other there named
      obtain ⟨_, rfl⟩ := List.getElem?_eq_some_iff.mp there
      exact before j earlier (beq_iff_eq.mpr named)
    · cases found
  · rintro ⟨place, named, before⟩
    obtain ⟨bound, rfl⟩ := List.getElem?_eq_some_iff.mp place
    have first : m.fields.findIdx? (·.name == name) = some id := by
      rw [List.findIdx?_eq_some_iff_getElem]
      refine ⟨bound, beq_iff_eq.mpr named, ?_⟩
      intro j earlier hit
      have short : j < m.fields.length := Nat.lt_trans earlier bound
      exact before j earlier _ (List.getElem?_eq_getElem short) (eq_of_beq hit)
    simp only [first, place, Option.map_some]

theorem Factory.ofPlugin_build_iff {f : Factory} (made : ofPlugin p = some f) :
    f.build field = some x ↔ ∃ id info, p.Declares field id info ∧ x = .plugin field p id info := by
  unfold ofPlugin at made
  split at made
  · cases made
    constructor
    · intro built
      dsimp only at built
      split at built
      · rename_i id info found
        obtain ⟨entry, name, first⟩ := Manifest.findField_eq_some_iff.mp found
        split at built
        · rename_i form
          cases built
          exact ⟨id, info, ⟨entry, name, first, form⟩, rfl⟩
        · cases built
      · cases built
    · rintro ⟨id, info, declares, rfl⟩
      have found := Manifest.findField_eq_some_iff.mpr
        ⟨declares.entry, declares.name, declares.first⟩
      simp only [found, declares.argument, if_true]
  · cases made

end EventProbe
