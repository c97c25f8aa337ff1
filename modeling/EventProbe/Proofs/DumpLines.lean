import EventProbe.Dump
import EventProbe.Proofs.ExtractionAgreement
import EventProbe.Proofs.Observation

/-! Lines of the dump program. The program extracts the fields of an event one after the other from
one driver; every part of a line is what the driver, as it has delivered the event, gives for the
field alone. -/
namespace EventProbe

/-! ## Extraction from processes that are alike -/

section Alike
variable [Plugin π ι] {h k : Host π} {d d' : Driver ι}

theorem Extractor.extract_alike (hosts : Host.Alike Eq h k) (x : Extractor) (e : Event)
    (offsets : Bool) : (x.extract h e offsets).1 = (x.extract k e offsets).1 := by
  have called {α : Type} (slot : Nat) (action : Action) (absent : α) (run : π → α × π) :
      (h.call slot action absent run).1 = (k.call slot action absent run).1 :=
    (hosts.call Eq run run absent absent slot action action rfl fun s t same =>
      ⟨by rw [same], by rw [same]⟩).1
  cases x with
  | generic field kind =>
    cases kind with
    | pluginInfo =>
      simp only [extract, extractGeneric, Host.render]
      cases e.plugin with
      | none => rfl
      | some p => simp only [called]
    | argument | hostname | os | arch =>
      simp only [extract, extractGeneric]
      split <;> rfl
    | _ => rfl
  | plugin field owner id info =>
    simp only [extract, Host.extract]
    split
    · simp only [called]
    · rfl

omit [Plugin π ι] in
theorem Extractors.build_congr {r r' : Extractors} (factories : r'.factories = r.factories)
    (name : String) : r'.build name = r.build name := by
  unfold build
  rw [factories]

namespace Driver

/-- A driver from which fields may have been extracted is beside one from which none were. -/
structure Mirrors (d : Driver ι) (h : Host π) (d' : Driver ι) (h' : Host π) : Prop where
  driver : Driver.Alike Eq d d'
  host : Host.Alike Eq h h'
  factories : d'.extractors.factories = d.extractors.factories
  coherent : d.extractors.Coherent
  coherent' : d'.extractors.Coherent

namespace Mirrors
variable {h' : Host π}

theorem refl (quiet : Plugin.Unobtrusive (π := π) (ι := ι) Eq Eq) (coherent : d.extractors.Coherent)
    (h : Host π) : d.Mirrors h d h :=
  ⟨.refl quiet d, .refl quiet.equivalence h, rfl, coherent, coherent⟩

omit [Plugin π ι] in
theorem prepare_eq (mirrors : d.Mirrors h d' h') (field : String) (handle : EventHandle) :
    (d'.prepare field handle).1 = (d.prepare field handle).1 := by
  have event : d'.event handle = d.event handle := by
    obtain ⟨_, _, engines⟩ := mirrors.driver
    cases engines
    rfl
  have resolves : (d'.extractors.resolve field).1 = (d.extractors.resolve field).1 := by
    rw [mirrors.coherent.resolve_eq, mirrors.coherent'.resolve_eq,
      Extractors.build_congr mirrors.factories]
  cases found : (d.extractors.resolve field).1 with
  | error fault =>
    rw [prepare_of_error found]
    exact prepare_of_error (resolves.trans found)
  | ok x =>
    rw [prepare_of_ok found, prepare_of_ok (resolves.trans found), event]

theorem extractText_eq (mirrors : d.Mirrors h d' h') (field : String) (handle : EventHandle) :
    (d'.extractText h' field handle).1 = (d.extractText h field handle).1 := by
  rw [extractText_congr (mirrors.prepare_eq field handle)]
  cases ready : (d.prepare field handle).1 with
  | error fault => rw [extractText_of_error ready, extractText_of_error ready]
  | ok found =>
    rw [extractText_of_ok ready, extractText_of_ok ready, readText_eq, readText_eq,
      Extractor.extract_alike mirrors.host]

theorem extractWithOffsets_eq (mirrors : d.Mirrors h d' h') (steady : h.Steady) (steady' : h'.Steady)
    (field : String) (handle : EventHandle) :
    (d'.extractWithOffsets h' field handle).1 = (d.extractWithOffsets h field handle).1 := by
  rw [extractWithOffsets_congr (mirrors.prepare_eq field handle)]
  cases ready : (d.prepare field handle).1 with
  | error fault => rw [extractWithOffsets_of_error ready, extractWithOffsets_of_error ready]
  | ok found =>
    rw [extractWithOffsets_of_ok ready, extractWithOffsets_of_ok ready, readLocated_eq steady,
      readLocated_eq steady', Extractor.extract_alike mirrors.host,
      Extractor.extract_alike mirrors.host]

omit [Plugin π ι] in
/-- Another extraction leaves the second driver beside the first. -/
theorem resolved (mirrors : d.Mirrors h d' h') {k : Host π} (host : Host.Alike Eq h k)
    (field : String) (handle : EventHandle) : d.Mirrors h (d'.prepare field handle).2 k := by
  rw [prepare_resolve]
  refine ⟨?_, host, (Extractors.resolve_factories _ _).trans mirrors.factories, mirrors.coherent,
    mirrors.coherent'.resolve field⟩
  exact mirrors.driver.watched d.extractors _ d.collector d'.collector

theorem extractText (mirrors : d.Mirrors h d' h')
    (quiet : Plugin.Unobtrusive (π := π) (ι := ι) Eq Eq) (field : String) (handle : EventHandle) :
    d.Mirrors h (d'.extractText h' field handle).2.1 (d'.extractText h' field handle).2.2 := by
  rw [extractText_driver]
  exact mirrors.resolved (mirrors.host.trans quiet.equivalence
    (quiet.observed.extractText d' h' field handle)) field handle

theorem extractWithOffsets (mirrors : d.Mirrors h d' h')
    (quiet : Plugin.Unobtrusive (π := π) (ι := ι) Eq Eq) (field : String) (handle : EventHandle) :
    d.Mirrors h (d'.extractWithOffsets h' field handle).2.1
      (d'.extractWithOffsets h' field handle).2.2 := by
  rw [extractWithOffsets_driver]
  exact mirrors.resolved (mirrors.host.trans quiet.equivalence
    (quiet.observed.extractWithOffsets d' h' field handle)) field handle

theorem next (mirrors : d.Mirrors h d' h')
    (quiet : Plugin.Unobtrusive (π := π) (ι := ι) Eq Eq) :
    Agree (fun x y => x.1.Mirrors x.2 y.1 y.2) (d.next h) (d'.next h') := by
  have agree := mirrors.driver.next quiet mirrors.host
  have kept (d : Driver ι) (h : Host π) : (d.next h).2.1.extractors = d.extractors := by
    cases state : d.state with
    | idle => rw [next_of_idle state]
    | capturing => rw [next_of_capturing state]
  refine .of_eq agree.answer ⟨agree.state.1, agree.state.2, ?_, ?_, ?_⟩
  · rw [kept, kept, mirrors.factories]
  · rw [kept]
    exact mirrors.coherent
  · rw [kept]
    exact mirrors.coherent'

end Mirrors

end Driver

end Alike

/-! ## What the bundled plugins answer -/

/-- An operation that does not panic. -/
inductive Outcome.Calm : Outcome ε α → Prop where
  | ok : Calm (.ok a)
  | failed : Calm (.failed reason)

theorem Outcome.Calm.map {o : Outcome ε α} (calm : o.Calm) (f : α → β) : (o.map f).Calm := by
  cases calm with
  | ok => exact .ok
  | failed => exact .failed

theorem Payload.leadingNumber_calm (payload : String) : (leadingNumber payload).Calm := by
  unfold leadingNumber
  dsimp only
  split
  · exact .failed
  · split
    · exact .ok
    · exact .failed

theorem Payload.values_calm (r : Request) (payload : String) : (values r payload).Calm := by
  unfold values
  dsimp only
  split
  · exact .ok
  · exact .ok
  · split
    · exact .failed
    · exact .ok
  · exact leadingNumber_calm payload
  · split
    · exact .ok
    · exact .ok
  · exact .failed

theorem TestSource.tick_calm (data : List UInt8) : (tick data).Calm := by
  unfold tick
  split
  · exact .failed
  · split
    · exact .ok
    · split
      · exact .ok
      · exact .failed

namespace Plugin

theorem render_calm (p : Bundled) (e : Event) : (Plugin.render p e).1.Calm := by
  rcases p with p | p | p | p | p <;> exact .ok

theorem extract_calm (p : Bundled) (r : Request) : (Plugin.extract p r).1.Calm := by
  rcases p with p | p | p | p | p
  · exact .ok
  · simp only [Plugin.extract]
    split
    · exact Payload.values_calm r _
    · exact .failed
  · exact .ok
  · exact TestSource.tick_calm r.event.data
  · exact .ok

end Plugin

theorem Host.call_calm {h : Host π} {run : π → Outcome ε α × π} (slot : Nat) (action : Action)
    {absent : Outcome ε α} (absent_calm : absent.Calm) (calm : ∀ s, (run s).1.Calm) :
    (h.call slot action absent run).1.Calm := by
  unfold call
  cases h.slots[slot]? with
  | none => exact absent_calm
  | some s => exact calm s.state

theorem Extractor.extract_calm (h : Host Bundled) (x : Extractor) (e : Event) (offsets : Bool) :
    (x.extract h e offsets).1.Calm := by
  cases x with
  | generic field kind =>
    cases kind with
    | pluginInfo =>
      simp only [extract, extractGeneric]
      split
      · exact (Host.call_calm _ _ .ok fun s => Plugin.render_calm s e).map _
      · exact .ok
    | argument | hostname | os | arch =>
      simp only [extract, extractGeneric]
      split <;> exact .ok
    | _ => exact .ok
  | plugin field owner id info =>
    simp only [extract]
    split
    · exact (Host.call_calm _ _ .ok fun s => Plugin.extract_calm s _).map _
    · exact .ok

namespace Driver
variable {plain offsets : Outcome String (List Extracted)} {text : Outcome DriverFault String}
  {field : String} {handle : EventHandle}

theorem shownText_calm (calm : plain.Calm) : (shownText field plain).Calm := by
  cases calm with
  | @ok values =>
    simp only [shownText]
    split
    · exact .ok
    · exact .failed
  | failed => exact .failed

theorem shownLocated_calm (calm : text.Calm) (offsets_calm : offsets.Calm) :
    (shownLocated field offsets text).Calm := by
  cases calm with
  | ok =>
    cases offsets_calm with
    | ok => exact .ok
    | failed => exact .failed
  | failed => exact .failed

theorem extractText_calm (d : Driver BundledSource) (h : Host Bundled) (field : String)
    (handle : EventHandle) : (d.extractText h field handle).1.Calm := by
  cases ready : (d.prepare field handle).1 with
  | error fault =>
    rw [extractText_of_error ready]
    exact .failed
  | ok found =>
    rw [extractText_of_ok ready, readText_eq]
    exact shownText_calm (found.1.extract_calm h found.2 false)

theorem extractWithOffsets_calm (d : Driver BundledSource) {h : Host Bundled} (steady : h.Steady)
    (field : String) (handle : EventHandle) : (d.extractWithOffsets h field handle).1.Calm := by
  cases ready : (d.prepare field handle).1 with
  | error fault =>
    rw [extractWithOffsets_of_error ready]
    exact .failed
  | ok found =>
    rw [extractWithOffsets_of_ok ready, readLocated_eq steady]
    exact shownLocated_calm (shownText_calm (found.1.extract_calm h found.2 false))
      (found.1.extract_calm h found.2 true)

end Driver

/-! ## Lines -/

namespace Dump

structure Stop where
  driver : Driver BundledSource
  host : Host Bundled
  event : EventHandle

/-- What the driver extracts for a field, as text, with the bytes it was taken from under `offsets`. -/
def Stop.extracted (s : Stop) (offsets : Bool) (field : String) : Outcome DriverFault String :=
  if offsets then
    (s.driver.extractWithOffsets s.host field s.event).1.map fun (text, range) =>
      s!"{text} [{range.start}+{range.length}]"
  else (s.driver.extractText s.host field s.event).1

/-- The part of a line for a field, if it has a value or none. -/
inductive Stop.Shows (s : Stop) (offsets : Bool) (field : String) : String → Prop where
  | value : s.extracted offsets field = .ok text → Shows s offsets field s!"{field}={text}"
  | absent : s.extracted offsets field = .failed (.nullValue name) →
      Shows s offsets field s!"{field}=<NA>"

/-- The fault for a field that cannot be extracted. -/
structure Stop.Fails (s : Stop) (offsets : Bool) (field : String) (fault : DriverFault) : Prop where
  failed : s.extracted offsets field = .failed fault
  other : ∀ name, fault ≠ .nullValue name

/-- The parts of a line, or the fault of the first field that cannot be extracted. -/
inductive Stop.Reads (s : Stop) (offsets : Bool) :
    List String → Outcome DriverFault (List String) → Prop where
  | shown : List.Forall₂ (s.Shows offsets) asked texts → Reads s offsets asked (.ok texts)
  | fails : (∀ field ∈ before, ∃ text, s.Shows offsets field text) → s.Fails offsets field fault →
      Reads s offsets (before ++ field :: after) (.failed fault)

theorem Stop.Reads.calm {s : Stop} {offsets : Bool} {asked : List String}
    {answer : Outcome DriverFault (List String)} (reads : s.Reads offsets asked answer) :
    answer.Calm := by
  cases reads with
  | shown => exact .ok
  | fails => exact .failed

theorem Stop.shows_or_fails (s : Stop) (offsets : Bool) (field : String) :
    (∃ text, s.Shows offsets field text) ∨ ∃ fault, s.Fails offsets field fault := by
  have calm : (s.extracted offsets field).Calm := by
    unfold Stop.extracted
    split
    · exact (s.driver.extractWithOffsets_calm (fun slot _ => Plugin.steady_bundled slot.state) field
        s.event).map _
    · exact s.driver.extractText_calm s.host field s.event
  cases result : s.extracted offsets field with
  | ok text => exact .inl ⟨_, .value result⟩
  | panicked panic =>
    rw [result] at calm
    cases calm
  | failed fault =>
    by_cases null : ∃ name, fault = .nullValue name
    · obtain ⟨name, rfl⟩ := null
      exact .inl ⟨_, .absent result⟩
    · exact .inr ⟨fault, result, fun name same => null ⟨name, same⟩⟩

/-- The program `p₀` after extractions, beside a driver from which nothing was extracted. -/
structure Mirrors (p₀ : Dump) (d : Driver BundledSource) (h : Host Bundled) (p : Dump) : Prop where
  driver : d.Mirrors h p.driver p.host
  same : p = { p₀ with driver := p.driver, host := p.host }

section Parts
variable {p₀ p : Dump} {s : Stop} {offsets : Bool} {field text : String} {fields : List String}
  {fault : DriverFault}

def shownPart (field : String) : Outcome DriverFault String → Outcome DriverFault String
  | .ok text => .ok s!"{field}={text}"
  | .failed (.nullValue _) => .ok s!"{field}=<NA>"
  | result => result

theorem Stop.Shows.part (shown : s.Shows offsets field text) :
    shownPart field (s.extracted offsets field) = .ok text := by
  cases shown with
  | value result => rw [result, shownPart]
  | absent result => rw [result, shownPart]

theorem Stop.Fails.part (fails : s.Fails offsets field fault) :
    shownPart field (s.extracted offsets field) = .failed fault := by
  obtain ⟨failed, other⟩ := fails
  rw [failed]
  cases fault with
  | nullValue name => exact absurd rfl (other name)
  | _ => rfl

def extracting (p : Dump) (e : EventHandle) (field : String) :
    Outcome DriverFault String × Driver BundledSource × Host Bundled :=
  if p.offsets then
    let (result, driver, host) := p.driver.extractWithOffsets p.host field e
    (result.map fun (text, range) => s!"{text} [{range.start}+{range.length}]", driver, host)
  else p.driver.extractText p.host field e

theorem part_eq (p : Dump) (e : EventHandle) (field : String) :
    p.part e field = (shownPart field (p.extracting e field).1,
      { p with driver := (p.extracting e field).2.1, host := (p.extracting e field).2.2 }) := by
  rcases found : p.extracting e field with ⟨text | fault | panic, driver, host⟩
  all_goals
    unfold extracting at found
    simp only [part, found]
  · rfl
  · cases fault <;> rfl
  · rfl

theorem Mirrors.extracting (mirrors : p₀.Mirrors s.driver s.host p) (field : String) :
    (p.extracting s.event field).1 = s.extracted p₀.offsets field ∧
      s.driver.Mirrors s.host (p.extracting s.event field).2.1 (p.extracting s.event field).2.2 := by
  have quiet := Plugin.unobtrusive_bundled
  have steady (h : Host Bundled) : h.Steady := fun slot _ => Plugin.steady_bundled slot.state
  have asked : p.offsets = p₀.offsets := by rw [mirrors.same]
  rw [Stop.extracted, Dump.extracting, asked]
  cases p₀.offsets with
  | false =>
    simp only [Bool.false_eq_true, if_false]
    exact ⟨mirrors.driver.extractText_eq field s.event,
      mirrors.driver.extractText quiet field s.event⟩
  | true =>
    have same := mirrors.driver.extractWithOffsets_eq (steady _) (steady _) field s.event
    simp only [if_true]
    exact ⟨congrArg (Outcome.map _) same, mirrors.driver.extractWithOffsets quiet field s.event⟩

/-- A part is shown as the driver alone would extract it, and the program goes on beside this driver. -/
theorem Mirrors.part (mirrors : p₀.Mirrors s.driver s.host p) (field : String) :
    (p.part s.event field).1 = shownPart field (s.extracted p₀.offsets field) ∧
      p₀.Mirrors s.driver s.host (p.part s.event field).2 := by
  obtain ⟨answer, beside⟩ := mirrors.extracting field
  have later (driver : Driver BundledSource) (host : Host Bundled) :
      { p with driver, host } = { p₀ with driver, host } := by rw [mirrors.same]
  rw [part_eq, answer]
  exact ⟨rfl, beside, later _ _⟩

theorem Mirrors.parts (mirrors : p₀.Mirrors s.driver s.host p) (fields : List String) :
    s.Reads p₀.offsets fields (p.parts s.event fields).1 ∧
      p₀.Mirrors s.driver s.host (p.parts s.event fields).2 := by
  induction fields generalizing p with
  | nil => exact ⟨.shown .nil, mirrors⟩
  | cons field rest ih =>
    obtain ⟨answer, mirrors'⟩ := mirrors.part field
    rcases found : p.part s.event field with ⟨result, p'⟩
    rw [found] at answer mirrors'
    dsimp only at answer mirrors'
    obtain ⟨text, shown⟩ | ⟨fault, fails⟩ := s.shows_or_fails p₀.offsets field
    · rw [shown.part] at answer
      subst answer
      obtain ⟨reads, mirrors''⟩ := ih mirrors'
      simp only [Dump.parts, found]
      refine ⟨?_, mirrors''⟩
      generalize (p'.parts s.event rest).1 = answer at reads
      cases reads with
      | shown all => exact .shown (.cons shown all)
      | fails before fails =>
        have before' := List.forall_mem_cons.mpr ⟨⟨text, shown⟩, before⟩
        exact .fails before' fails
    · rw [fails.part] at answer
      subst answer
      have first : s.Reads p₀.offsets ([] ++ field :: rest) (.failed fault) := .fails (by simp) fails
      simp only [Dump.parts, found]
      exact ⟨first, mirrors'⟩

theorem Mirrors.line {n : Nat} (mirrors : p₀.Mirrors s.driver s.host p)
    (named : s.event.seq = some n) :
    ∃ answer, s.Reads p₀.offsets p₀.fields answer ∧
      (p.line s.event).1 = answer.map (fun shown => " ".intercalate (s!"#{n}" :: shown)) ∧
      p₀.Mirrors s.driver s.host (p.line s.event).2 := by
  have asked : p.fields = p₀.fields := by rw [mirrors.same]
  obtain ⟨reads, mirrors'⟩ := mirrors.parts p₀.fields
  refine ⟨_, reads, ?_, ?_⟩
  · simp only [Dump.line, named, asked]
    rfl
  · simp only [Dump.line, asked]
    exact mirrors'

end Parts

end Dump

end EventProbe
