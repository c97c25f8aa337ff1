import EventProbe.Proofs.DriverExtraction
import EventProbe.Proofs.ExtractorCache
import EventProbe.Proofs.Process
import EventProbe.Proofs.SteadyPlugins

/-! The two extractions of a driver give the same text and fail for the same reasons, in the same
order: the field, the handle, the pass that reads the values, the lack of a value. Only the pass that
reads byte ranges can fail on its own. -/
namespace EventProbe

theorem shownValues_eq_none_iff : shownValues values = none ↔ values = [] := by
  unfold shownValues
  split <;> simp_all

def DriverFault.isEarly : DriverFault → Bool
  | .invalidField _ => true
  | .nullEvent => true
  | .staleEvent => true
  | _ => false

namespace Driver

def Names (d : Driver ι) (handle : EventHandle) (e : Event) : Prop :=
  d.engine.current = some e ∧ handle = ⟨d.id, some e.num⟩

/-- The failures of an extraction that do not depend on the event, each where no earlier one applies.
The field resolves if the factories build an extractor for it. -/
structure Refuses (d : Driver ι) (field : String) (handle : EventHandle)
    (result : Outcome DriverFault α) : Prop where
  invalidField : ∀ fault,
    result = .failed (.invalidField fault) ↔ d.extractors.build field = .error fault
  nullEvent : ∀ x, d.extractors.build field = .ok x →
    (result = .failed .nullEvent ↔ handle.isNull = true)
  staleEvent : ∀ x, d.extractors.build field = .ok x → handle.isNull = false →
    (result = .failed .staleEvent ↔ ∀ e, ¬ d.Names handle e)

section Faults
variable {d : Driver ι} {handle : EventHandle} {field : String}

theorem Names.not_null (names : d.Names handle e) : handle.isNull = false := by
  rw [names.2]
  rfl

/-- What both extractions begin with, by the answer of the factories and the handle. -/
inductive Prepared (d : Driver ι) (field : String) (handle : EventHandle) :
    Except DriverFault (Extractor × Event) → Prop where
  | unresolved : d.extractors.build field = .error fault →
      Prepared d field handle (.error (.invalidField fault))
  | null : d.extractors.build field = .ok x → handle.isNull = true →
      Prepared d field handle (.error .nullEvent)
  | stale : d.extractors.build field = .ok x → handle.isNull = false →
      (∀ e, ¬ d.Names handle e) → Prepared d field handle (.error .staleEvent)
  | ready : d.extractors.build field = .ok x → d.Names handle e →
      Prepared d field handle (.ok (x, e))

theorem prepared (coherent : d.extractors.Coherent) (field : String) (handle : EventHandle) :
    Prepared d field handle (d.prepare field handle).1 := by
  have answer := coherent.resolve_eq field
  cases built : d.extractors.build field with
  | error fault =>
    rw [built] at answer
    rw [prepare_of_error answer]
    exact .unresolved built
  | ok x =>
    rw [built] at answer
    rw [prepare_of_ok answer]
    cases null : handle.isNull with
    | true =>
      rw [event_null null]
      exact .null built null
    | false =>
      by_cases named : ∃ e, d.Names handle e
      · obtain ⟨e, names⟩ := named
        rw [event_eq_ok_iff.mpr names]
        exact .ready built names
      · have other : ∀ e, ¬ d.Names handle e := fun e names => named ⟨e, names⟩
        rw [event_stale null fun e current same => other e ⟨current, same⟩]
        exact .stale built null other

/-- An extraction that passes on the faults of its beginning, and has no such fault later, refuses for
the reasons of the beginning. -/
theorem Prepared.refuses {result : Outcome DriverFault α}
    (prepared : Prepared d field handle answer)
    (passed : ∀ fault, answer = .error fault → result = .failed fault)
    (late : ∀ x e, answer = .ok (x, e) → ∀ fault, result = .failed fault → fault.isEarly = false) :
    Refuses d field handle result := by
  cases prepared with
  | unresolved built =>
    have failed := passed _ rfl
    constructor <;> simp [failed, built]
  | null built null =>
    have failed := passed _ rfl
    constructor <;> simp [failed, built, null]
  | stale built named other =>
    have failed := passed _ rfl
    constructor <;> simp [failed, built, named, other]
  | @ready x e built names =>
    have never : ∀ fault, fault.isEarly = true → result ≠ .failed fault := by
      intro fault early failed
      cases early.symm.trans (late x e rfl fault failed)
    constructor
    · intro fault
      simp only [never (.invalidField fault) rfl, built, reduceCtorEq]
    · intro y _
      simp only [never .nullEvent rfl, names.not_null, Bool.false_eq_true]
    · intro y _ _
      simp only [never .staleEvent rfl, false_iff]
      exact fun other => other e names

end Faults

def shownRange (found : List Extracted) : Range :=
  (found.head?.bind Extracted.range).getD ⟨0, 0⟩

/-- What the values of the plain pass come to. -/
def shownText (field : String) : Outcome String (List Extracted) → Outcome DriverFault String
  | .ok values =>
    match shownValues values with
    | some text => .ok text
    | none => .failed (.nullValue field)
  | .failed message => .failed (.extraction field message)
  | .panicked p => .panicked p

/-- A text with the byte range that the other pass yields. -/
def shownLocated (field : String) (offsets : Outcome String (List Extracted)) :
    Outcome DriverFault String → Outcome DriverFault (String × Range)
  | .ok text => (offsets.map fun found => (text, shownRange found)).mapReason (.extraction field)
  | .failed fault => .failed fault
  | .panicked p => .panicked p

section Shown
variable {plain offsets : Outcome String (List Extracted)} {text : Outcome DriverFault String}
  {field message : String}

theorem shownText_eq_ok_iff :
    shownText field plain = .ok s ↔ ∃ values, plain = .ok values ∧ shownValues values = some s := by
  cases plain with
  | ok values => cases shown : shownValues values <;> simp [shownText, shown]
  | _ => simp [shownText]

theorem shownText_eq_extraction_iff :
    shownText field plain = .failed (.extraction field message) ↔ plain = .failed message := by
  cases plain with
  | ok values => cases shown : shownValues values <;> simp [shownText, shown]
  | _ => simp [shownText]

theorem shownText_eq_nullValue_iff :
    shownText field plain = .failed (.nullValue field) ↔ plain = .ok [] := by
  cases plain with
  | ok values =>
    rw [Outcome.ok.injEq, ← shownValues_eq_none_iff]
    cases shown : shownValues values <;> simp [shownText, shown]
  | _ => simp [shownText]

theorem shownText_eq_panicked_iff : shownText field plain = .panicked p ↔ plain = .panicked p := by
  cases plain with
  | ok values => cases shown : shownValues values <;> simp [shownText, shown]
  | _ => simp [shownText]

theorem shownText_late (refused : shownText field plain = .failed fault) : fault.isEarly = false := by
  cases plain with
  | ok values =>
    cases shown : shownValues values with
    | none =>
      simp only [shownText, shown] at refused
      cases refused
      rfl
    | some text => simp [shownText, shown] at refused
  | failed message =>
    cases refused
    rfl
  | panicked p => cases refused

theorem shownLocated_eq_ok_iff : shownLocated field offsets text = .ok (s, r) ↔
    text = .ok s ∧ ∃ found, offsets = .ok found ∧ r = shownRange found := by
  cases text with
  | ok t => cases offsets <;> simp [shownLocated, Outcome.map, Outcome.mapReason, eq_comm]
  | _ => simp [shownLocated]

theorem shownLocated_eq_failed_iff : shownLocated field offsets text = .failed fault ↔
    text = .failed fault ∨ (∃ s, text = .ok s) ∧
      ∃ message, offsets = .failed message ∧ fault = .extraction field message := by
  cases text with
  | ok t => cases offsets <;> simp [shownLocated, Outcome.map, Outcome.mapReason, eq_comm]
  | _ => simp [shownLocated]

theorem shownLocated_eq_panicked_iff : shownLocated field offsets text = .panicked p ↔
    text = .panicked p ∨ (∃ s, text = .ok s) ∧ offsets = .panicked p := by
  cases text with
  | ok t => cases offsets <;> simp [shownLocated, Outcome.map, Outcome.mapReason]
  | _ => simp [shownLocated]

end Shown

/-- What the extractions make of an event: the first of the plain pass, the second also of the pass
that reads byte ranges. Both passes are those that the host would answer now. -/
structure Reading [Plugin π ι] (h : Host π) (x : Extractor) (field : String) (e : Event)
    (text : Outcome DriverFault String) (located : Outcome DriverFault (String × Range)) : Prop where
  text_ok : ∀ s, text = .ok s ↔
    ∃ values, (x.extract h e false).1 = .ok values ∧ shownValues values = some s
  text_failed : ∀ message, text = .failed (.extraction field message) ↔
    (x.extract h e false).1 = .failed message
  text_nullValue : text = .failed (.nullValue field) ↔ (x.extract h e false).1 = .ok []
  text_panicked : ∀ p, text = .panicked p ↔ (x.extract h e false).1 = .panicked p
  located_ok : ∀ s r, located = .ok (s, r) ↔ text = .ok s ∧
    ∃ found, (x.extract h e true).1 = .ok found ∧ r = shownRange found
  located_failed : ∀ fault, located = .failed fault ↔ text = .failed fault ∨
    (∃ s, text = .ok s) ∧ ∃ message, (x.extract h e true).1 = .failed message ∧
      fault = .extraction field message
  located_panicked : ∀ p, located = .panicked p ↔ text = .panicked p ∨
    (∃ s, text = .ok s) ∧ (x.extract h e true).1 = .panicked p

section Passes
variable [Plugin π ι] {d : Driver ι} {h : Host π} {x : Extractor} {e : Event} {field : String}

theorem readText_eq (h : Host π) (x : Extractor) (field : String) (e : Event) :
    readText h x field e = shownText field (x.extract h e false).1 := by
  rcases plain : x.extract h e false with ⟨values | message | p, h'⟩
  · simp only [readText, renderField, Extractor.render, plain, Outcome.map, shownText]
    cases shownValues values <;> rfl
  · simp only [readText, renderField, Extractor.render, plain, Outcome.map, shownText]
  · simp only [readText, renderField, Extractor.render, plain, Outcome.map, shownText]

/-- The second pass comes after the first, but answers as if it were alone. -/
theorem readLocated_eq (steady : h.Steady) (x : Extractor) (field : String) (e : Event) :
    readLocated h x field e =
      shownLocated field (x.extract h e true).1 (shownText field (x.extract h e false).1) := by
  have again := x.extract_again steady e false true
  rcases plain : x.extract h e false with ⟨values | message | p, h'⟩
  · rw [plain] at again
    simp only [readLocated, renderField, Extractor.render, plain, Outcome.map, shownText]
    cases shownValues values with
    | none => rfl
    | some text =>
      simp only [locateField, Extractor.extractWithOffsets, shownLocated, ← again]
      rcases x.extract h' e true with ⟨_ | _ | _, _⟩ <;> rfl
  · simp only [readLocated, renderField, Extractor.render, plain, Outcome.map, shownText,
      shownLocated]
  · simp only [readLocated, renderField, Extractor.render, plain, Outcome.map, shownText,
      shownLocated]

theorem reading (steady : h.Steady) (x : Extractor) (field : String) (e : Event) :
    Reading h x field e (readText h x field e) (readLocated h x field e) := by
  rw [readText_eq, readLocated_eq steady]
  exact {
    text_ok := fun _ => shownText_eq_ok_iff
    text_failed := fun _ => shownText_eq_extraction_iff
    text_nullValue := shownText_eq_nullValue_iff
    text_panicked := fun _ => shownText_eq_panicked_iff
    located_ok := fun _ _ => shownLocated_eq_ok_iff
    located_failed := fun _ => shownLocated_eq_failed_iff
    located_panicked := fun _ => shownLocated_eq_panicked_iff }

theorem readText_late (refused : readText h x field e = .failed fault) : fault.isEarly = false := by
  rw [readText_eq] at refused
  exact shownText_late refused

theorem readLocated_late (steady : h.Steady) (refused : readLocated h x field e = .failed fault) :
    fault.isEarly = false := by
  obtain text | ⟨_, message, _, rfl⟩ := ((reading steady x field e).located_failed fault).mp refused
  · exact readText_late text
  · rfl

end Passes

section Coherence
variable {d : Driver ι}

theorem addExtractors_coherent (coherent : d.extractors.Coherent) (p : Handle) (source : String) :
    (d.addExtractors p source).extractors.Coherent := by
  unfold addExtractors
  split
  · have generic := coherent.add Factory.generic_keepsField
    dsimp only
    split
    · rename_i factory made
      exact generic.add (Factory.ofPlugin_keepsField made)
    · exact generic
  · exact coherent

theorem perform_coherent [Plugin π ι] (coherent : d.extractors.Coherent) (h : Host π)
    (c : DriverCall π) : (d.perform h c).2.1.extractors.Coherent := by
  by_cases adds : ∃ p source, c = .addExtractors p source
  · obtain ⟨p, source, rfl⟩ := adds
    exact addExtractors_coherent coherent p source
  · have rest : ∀ p source, c ≠ .addExtractors p source := fun p source same => adds ⟨p, source, same⟩
    obtain same | ⟨field, resolved⟩ := d.perform_extractors h rest
    · rwa [same]
    · rw [resolved]
      exact coherent.resolve field

end Coherence

end Driver

/-- A driver of a running process keeps extractors that its factories would build now. -/
theorem Process.Run.coherent [Plugin π ι] {p : Process π ι} (run : Process.Run p log)
    (there : p.driver? i = some d) : d.extractors.Coherent :=
  run.driver_holds (fun d => d.extractors.Coherent) (fun _ _ _ => Extractors.Coherent.fresh)
    (fun _ h c coherent => Driver.perform_coherent coherent h c) there

/-- Both extractions from one state of a running process refuse for the same reasons in the same
order, and make the same of the event that the handle names. -/
theorem Process.Run.extractions_agree [Plugin π ι] {p : Process π ι} (run : Process.Run p log)
    (there : p.driver? i = some d) (steady : p.host.Steady) (field : String) (handle : EventHandle) :
    d.Refuses field handle (d.extractText p.host field handle).1 ∧
      d.Refuses field handle (d.extractWithOffsets p.host field handle).1 ∧
      ∀ x e, d.extractors.build field = .ok x → d.Names handle e →
        Driver.Reading p.host x field e (d.extractText p.host field handle).1
          (d.extractWithOffsets p.host field handle).1 := by
  have coherent := run.coherent there
  have prepared := Driver.prepared coherent field handle
  refine ⟨?_, ?_, ?_⟩
  · refine prepared.refuses (fun _ => Driver.extractText_of_error) ?_
    intro x e ready fault refused
    rw [Driver.extractText_of_ok ready] at refused
    exact Driver.readText_late refused
  · refine prepared.refuses (fun _ => Driver.extractWithOffsets_of_error) ?_
    intro x e ready fault refused
    rw [Driver.extractWithOffsets_of_ok ready] at refused
    exact Driver.readLocated_late steady refused
  · intro x e built names
    have ready : (d.prepare field handle).1 = .ok (x, e) := by
      rw [Driver.prepare_of_ok ((coherent.resolve_eq field).trans built),
        Driver.event_eq_ok_iff.mpr names]
      rfl
    rw [Driver.extractText_of_ok ready, Driver.extractWithOffsets_of_ok ready]
    exact Driver.reading steady x field e

/-- The first of two drivers reads the data of its event, and the range of all of it. -/
theorem Process.ticking_extractions_agree : ∃ d x e, ticking.1.driver? 0 = some d ∧
    d.extractors.build "evt.data" = .ok x ∧ d.Names ⟨1, some 0⟩ e ∧
    Driver.Reading ticking.1.host x "evt.data" e
      (d.extractText ticking.1.host "evt.data" ⟨1, some 0⟩).1 (.ok ("tick=0", ⟨0, 6⟩)) := by
  have ready : ∃ d ∈ ticking.1.driver? 0, ∃ e ∈ d.engine.current,
      (d.extractors.build "evt.data").isOk = true ∧
      (⟨1, some 0⟩ : EventHandle) = ⟨d.id, some e.num⟩ ∧
      (d.extractWithOffsets ticking.1.host "evt.data" ⟨1, some 0⟩).1 = .ok ("tick=0", ⟨0, 6⟩) := by
    decide +kernel
  obtain ⟨d, there, e, current, builds, named, located⟩ := ready
  cases built : d.extractors.build "evt.data" with
  | error fault =>
    rw [built] at builds
    cases builds
  | ok x =>
    have steady : ticking.1.host.Steady := fun slot _ => Plugin.steady_bundled slot.state
    have agree := (ticking_run.extractions_agree there steady "evt.data" ⟨1, some 0⟩).2.2 x e built
      ⟨current, named⟩
    rw [located] at agree
    exact ⟨d, x, e, there, built, ⟨current, named⟩, agree⟩

end EventProbe
