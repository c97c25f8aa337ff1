import EventProbe.Driver

/-! The two extractions of a driver. Both begin by resolving the field and looking the handle up;
what follows depends on the extractor and the event found, and on nothing else of the driver. -/
namespace EventProbe.Driver

variable {d d' : Driver ι} {handle : EventHandle} {e : Event} {x : Extractor} {field : String}

theorem event_eq_ok_iff : d.event handle = .ok e ↔
    d.engine.current = some e ∧ handle = ⟨d.id, some e.num⟩ := by
  obtain ⟨driver, seq⟩ := handle
  cases seq with
  | none => simp [event]
  | some seq =>
    by_cases own : driver = d.id
    · cases current : d.engine.current with
      | none => simp [event, own, current]
      | some found =>
        by_cases same : found.num = seq
        · subst same
          simp only [event, own, ne_eq, not_true_eq_false, if_false, current, if_true,
            Except.ok.injEq, Option.some.injEq, EventHandle.mk.injEq, true_and]
          exact ⟨fun h => ⟨h, by rw [h]⟩, And.left⟩
        · simp only [event, own, ne_eq, not_true_eq_false, if_false, current, same, reduceCtorEq,
            Option.some.injEq, EventHandle.mk.injEq, true_and, false_iff, not_and]
          rintro rfl rfl
          exact same rfl
    · simp [event, own]

theorem event_null (null : handle.isNull = true) : d.event handle = .error .nullEvent := by
  have absent : handle.seq = none := Option.isNone_iff_eq_none.mp null
  simp only [event, absent]

/-- A handle that is neither null nor that of the current event is stale. -/
theorem event_stale (named : handle.isNull = false)
    (other : ∀ e, d.engine.current = some e → handle ≠ ⟨d.id, some e.num⟩) :
    d.event handle = .error .staleEvent := by
  obtain ⟨driver, seq⟩ := handle
  cases seq with
  | none => cases named
  | some seq =>
    by_cases own : driver = d.id
    · cases current : d.engine.current with
      | none => simp only [event, own, current, ne_eq, not_true_eq_false, if_false]
      | some found =>
        have differs : found.num ≠ seq := by
          rintro rfl
          exact other found current (by rw [own])
        simp only [event, own, current, differs, ne_eq, not_true_eq_false, if_false]
    · simp only [event, own, ne_eq, not_false_eq_true, if_true]

theorem prepare_of_error (unresolved : (d.extractors.resolve field).1 = .error fault) :
    (d.prepare field handle).1 = .error (.invalidField fault) := by
  simp only [prepare, unresolved]

/-- The handle is looked up in the driver as it is, for resolving changes only its extractors. -/
theorem prepare_of_ok (resolved : (d.extractors.resolve field).1 = .ok x) :
    (d.prepare field handle).1 = (d.event handle).map fun e => (x, e) := by
  simp only [prepare, resolved]
  rfl

theorem prepare_eq_ok (ready : (d.prepare field handle).1 = .ok (x, e)) :
    (d.extractors.resolve field).1 = .ok x ∧ d.engine.current = some e := by
  cases resolved : (d.extractors.resolve field).1 with
  | error fault =>
    rw [prepare_of_error resolved] at ready
    cases ready
  | ok y =>
    rw [prepare_of_ok resolved] at ready
    cases found : d.event handle with
    | error fault =>
      rw [found] at ready
      cases ready
    | ok e' =>
      rw [found] at ready
      cases ready
      exact ⟨rfl, (event_eq_ok_iff.mp found).1⟩

/-- An extraction reads an event: the field resolves, and the handle leads to the event. -/
def Reads (d : Driver ι) (field : String) (handle : EventHandle) (e : Event) : Prop :=
  ∃ x, (d.prepare field handle).1 = .ok (x, e)

theorem reads_iff (resolved : (d.extractors.resolve field).1 = .ok x) :
    d.Reads field handle e ↔ d.engine.current = some e ∧ handle = ⟨d.id, some e.num⟩ := by
  rw [← event_eq_ok_iff]
  simp only [Reads, prepare_of_ok resolved]
  cases d.event handle with
  | error fault => simp [Except.map]
  | ok found => simp [Except.map]

theorem prepare_resolve (d : Driver ι) (field : String) (handle : EventHandle) :
    (d.prepare field handle).2 = { d with extractors := (d.extractors.resolve field).2 } := by
  unfold prepare
  dsimp only
  split <;> rfl

/-- A driver with other extractors that find the same finds the same events. -/
theorem prepare_congr {others : Extractors}
    (same : (others.resolve field).1 = (d.extractors.resolve field).1) :
    (prepare { d with extractors := others } field handle).1 = (d.prepare field handle).1 := by
  cases found : (d.extractors.resolve field).1 with
  | error fault =>
    rw [prepare_of_error found]
    exact prepare_of_error (same.trans found)
  | ok x =>
    rw [prepare_of_ok found]
    exact prepare_of_ok (same.trans found)

section Outcomes
variable [Plugin π ι] {h : Host π}

theorem renderField_host (h : Host π) (x : Extractor) (field : String) (e : Event) :
    (renderField h x field e).2 = (x.extract h e false).2 := by
  rcases plain : x.extract h e false with ⟨values | message | p, h'⟩
  · simp only [renderField, Extractor.render, plain, Outcome.map]
    cases shownValues values <;> rfl
  · simp only [renderField, Extractor.render, plain, Outcome.map]
  · simp only [renderField, Extractor.render, plain, Outcome.map]

theorem locateField_host (h : Host π) (x : Extractor) (field : String) (e : Event) :
    (locateField h x field e).2 = (x.extract h e true).2 := by
  rcases found : x.extract h e true with ⟨values | message | p, h'⟩ <;>
    simp only [locateField, Extractor.extractWithOffsets, found]

/-- The text that an extractor reads from an event. -/
def readText (h : Host π) (x : Extractor) (field : String) (e : Event) :
    Outcome DriverFault String :=
  (renderField h x field e).1

/-- The text that an extractor reads from an event, with the byte range of the first value of a
second pass. -/
def readLocated (h : Host π) (x : Extractor) (field : String) (e : Event) :
    Outcome DriverFault (String × Range) :=
  match renderField h x field e with
  | (.failed fault, _) => .failed fault
  | (.panicked p, _) => .panicked p
  | (.ok text, h) => (locateField h x field e).1.map fun range => (text, range)

theorem extractText_of_ok (ready : (d.prepare field handle).1 = .ok (x, e)) :
    (d.extractText h field handle).1 = readText h x field e := by
  rcases found : d.prepare field handle with ⟨result, d'⟩
  rw [found] at ready
  subst ready
  simp only [extractText, found, readText]

theorem extractText_of_error (refused : (d.prepare field handle).1 = .error fault) :
    (d.extractText h field handle).1 = .failed fault := by
  rcases found : d.prepare field handle with ⟨result, d'⟩
  rw [found] at refused
  subst refused
  simp only [extractText, found]

theorem extractWithOffsets_of_ok (ready : (d.prepare field handle).1 = .ok (x, e)) :
    (d.extractWithOffsets h field handle).1 = readLocated h x field e := by
  rcases found : d.prepare field handle with ⟨result, d'⟩
  rw [found] at ready
  subst ready
  simp only [extractWithOffsets, found, readLocated]
  rcases renderField h x field e with ⟨_ | fault | p, h'⟩ <;> rfl

theorem extractWithOffsets_of_error (refused : (d.prepare field handle).1 = .error fault) :
    (d.extractWithOffsets h field handle).1 = .failed fault := by
  rcases found : d.prepare field handle with ⟨result, d'⟩
  rw [found] at refused
  subst refused
  simp only [extractWithOffsets, found]

/-- An extraction changes of a driver what resolving the field changes. -/
theorem extractText_driver (d : Driver ι) (h : Host π) (field : String) (handle : EventHandle) :
    (d.extractText h field handle).2.1 = (d.prepare field handle).2 := by
  rcases found : d.prepare field handle with ⟨fault | ⟨x, e⟩, d'⟩ <;> simp only [extractText, found]

theorem extractWithOffsets_driver (d : Driver ι) (h : Host π) (field : String)
    (handle : EventHandle) :
    (d.extractWithOffsets h field handle).2.1 = (d.prepare field handle).2 := by
  rcases found : d.prepare field handle with ⟨fault | ⟨x, e⟩, d'⟩ <;>
    simp only [extractWithOffsets, found]
  split <;> rfl

theorem extractText_congr
    (same : (d'.prepare field handle).1 = (d.prepare field handle).1) (h : Host π) :
    (d'.extractText h field handle).1 = (d.extractText h field handle).1 := by
  cases ready : (d.prepare field handle).1 with
  | error fault =>
    rw [extractText_of_error ready]
    exact extractText_of_error (same.trans ready)
  | ok found =>
    rw [extractText_of_ok ready]
    exact extractText_of_ok (same.trans ready)

theorem extractWithOffsets_congr
    (same : (d'.prepare field handle).1 = (d.prepare field handle).1) (h : Host π) :
    (d'.extractWithOffsets h field handle).1 = (d.extractWithOffsets h field handle).1 := by
  cases ready : (d.prepare field handle).1 with
  | error fault =>
    rw [extractWithOffsets_of_error ready]
    exact extractWithOffsets_of_error (same.trans ready)
  | ok found =>
    rw [extractWithOffsets_of_ok ready]
    exact extractWithOffsets_of_ok (same.trans ready)

end Outcomes

end EventProbe.Driver
