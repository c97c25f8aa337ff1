import EventProbe.Plugins.Scripted
import EventProbe.Proofs.FieldTables
import EventProbe.Proofs.JournalEntries
import EventProbe.Proofs.NumeralText
import EventProbe.Proofs.PluginSlots

/-! What plugins are asked for. A factory decides whether a field may be written with an argument, and
each request decides again how the argument is passed on. Both go by the first entry under the name,
and they agree on every argument. -/
namespace EventProbe

/-- The first entry with this name stands at this position of the table. -/
structure Manifest.First (m : Manifest) (path : String) (id : Nat) (info : FieldInfo) : Prop where
  entry : m.fields[id]? = some info
  name : info.name = path
  first : ∀ j < id, ∀ other, m.fields[j]? = some other → other.name ≠ path

/-- A field may be written with this argument: it takes numbers and a number is written, or it takes
keys. Without one it may be written unless it requires one. -/
def ArgumentRule.Receives (r : ArgumentRule) : Option String → Prop
  | .none => r.required = false
  | .some text => (r.index = true ∧ ∃ n, Numeral.Spells text.toList n) ∨ r.key = true

/-- A request for a field with this entry, written with this argument. -/
structure Request.Asks (r : Request) (id : Nat) (info : FieldInfo) (argument : Option String) :
    Prop where
  fieldId : r.fieldId = id
  entry : r.field = info
  bare : argument = none → info.argument.required = false ∧ r.argIndex = none ∧ r.argKey = none
  index : ∀ text n, argument = some text →
    (r.argIndex = some n ↔ info.argument.index = true ∧ Numeral.Spells text.toList n)
  key : ∀ text, argument = some text → r.argIndex = none →
    r.argKey = some text ∧ info.argument.key = true
  one : r.argIndex.isSome = true → r.argKey = none

section Requests
variable {p : Handle} {f : Factory} {x : Extractor} {field : FieldName} {id : Nat} {info : FieldInfo}

theorem ArgumentRule.accepts_iff {r : ArgumentRule} :
    r.accepts field = true ↔ r.Receives field.argument := by
  unfold accepts Receives acceptsSome
  cases field.argument with
  | none => simp
  | some text =>
    simp only [← Numeral.parse?_eq_some_iff, ← Option.isSome_iff_exists]
    grind

theorem Handle.declares_iff : p.Declares field id info ↔
    p.manifest.First field.path id info ∧ info.argument.Receives field.argument := by
  rw [← ArgumentRule.accepts_iff]
  constructor
  · rintro ⟨entry, name, first, argument⟩
    exact ⟨⟨entry, name, first⟩, argument⟩
  · rintro ⟨⟨entry, name, first⟩, argument⟩
    exact ⟨entry, name, first, argument⟩

theorem Request.make_argKey (id : Nat) (info : FieldInfo) (field : FieldName) (e : Event)
    (offsets : Bool) : (make id info field e offsets).argKey =
      if info.argument.key && (make id info field e offsets).argIndex.isNone then field.argument
      else none :=
  rfl

/-- A key is passed on as it is written, if it may not be a number too. -/
theorem Request.make_argKey_of_no_index (unindexed : info.argument.index = false) (id : Nat)
    (field : FieldName) (e : Event) (offsets : Bool) :
    (make id info field e offsets).argKey = if info.argument.key then field.argument else none := by
  simp [make, unindexed]

/-- Where the table lets a field be written with an argument, the request has it. -/
theorem Request.make_asks (receives : info.argument.Receives field.argument) (id : Nat) (e : Event)
    (offsets : Bool) : (make id info field e offsets).Asks id info field.argument := by
  have read : ∀ text, field.argument = some text → field.index = Numeral.parse? text := by
    intro text written
    rw [FieldName.index, written, Option.bind_some]
  constructor
  · rfl
  · rfl
  · intro bare
    rw [bare] at receives
    exact ⟨receives, by simp [make, FieldName.index, bare], by simp [make, bare]⟩
  · intro text n written
    simp only [make, read text written, ← Numeral.parse?_eq_some_iff]
    cases info.argument.index <;> simp
  · intro text written unread
    rw [written] at receives
    have key : info.argument.key = true := by
      obtain ⟨index, n, spelled⟩ | key := receives
      · -- A number that is written would have been passed on as one.
        rw [← Numeral.parse?_eq_some_iff, ← read text written] at spelled
        simp [make, index, spelled] at unread
      · exact key
    rw [make_argKey, unread]
    exact ⟨by simp [key, written], key⟩
  · intro numbered
    rw [make_argKey, Option.isNone_eq_false_iff.mpr numbered]
    simp

namespace Extractor
variable [Plugin π ι] {h : Host π} {e : Event} {offsets : Bool}

theorem plugin_makes {allowed : Handle → Action → Prop}
    (ok : allowed p (.extract (Request.make id info field e offsets))) :
    h.Makes allowed ((Extractor.plugin field p id info).extract h e offsets).2 := by
  unfold extract
  dsimp only
  split
  · exact .call h p ok _ _
  · exact .refl allowed h

/-- An extractor asks its plugin once about an event that the plugin reads. -/
theorem plugin_size (holds : h.Holds p) (reads : p.manifest.reads e.source = true) :
    ((Extractor.plugin field p id info).extract h e offsets).2.journal.size =
      h.journal.size + 1 := by
  unfold Host.Holds at holds
  rw [List.getElem?_map, Option.map_eq_some_iff] at holds
  obtain ⟨s, found, _⟩ := holds
  simp [extract, reads, Host.extract, Host.call, found, Host.record]

end Extractor

/-- A plugin provides a field exactly if the first entry of its table under the name may be written
with the argument. Everything that the plugin is then asked is for this entry, and has the argument as
a number where the entry takes numbers and the argument is one, or else as it is written. -/
theorem Factory.ofPlugin_asks [Plugin π ι] (made : ofPlugin p = some f) (field : FieldName) :
    ((f.build field).isSome = true ↔
      ∃ id info, p.manifest.First field.path id info ∧ info.argument.Receives field.argument) ∧
    ∀ x, f.build field = some x → ∃ id info, p.manifest.First field.path id info ∧
      ∀ (h : Host π) e offsets,
        h.Makes (fun q a => q = p ∧ ∃ r, a = .extract r ∧ r.Asks id info field.argument ∧
          r.event = e ∧ r.offsets = offsets) (x.extract h e offsets).2 ∧
        (h.Holds p → p.manifest.reads e.source = true →
          (x.extract h e offsets).2.journal.size = h.journal.size + 1) := by
  constructor
  · simp only [Option.isSome_iff_exists, ofPlugin_build_iff made, Handle.declares_iff]
    constructor
    · rintro ⟨x, id, info, declares, _⟩
      exact ⟨id, info, declares⟩
    · rintro ⟨id, info, declares⟩
      exact ⟨_, id, info, declares, rfl⟩
  · intro x built
    obtain ⟨id, info, declares, rfl⟩ := (ofPlugin_build_iff made).mp built
    obtain ⟨first, receives⟩ := Handle.declares_iff.mp declares
    refine ⟨id, info, first, ?_⟩
    intro h e offsets
    constructor
    · exact Extractor.plugin_makes ⟨rfl, _, rfl, Request.make_asks receives id e offsets, rfl, rfl⟩
    · exact Extractor.plugin_size

/-- A plugin with two entries of one name. The first takes numbers and keys and requires one of them. -/
def overlapping : Handle :=
  ⟨0, "overlapping", "", "", .of [.fieldExtraction], none, [],
    [⟨"other", .string, false, .none, ""⟩, ⟨"twice", .string, false, ⟨true, true, true⟩, ""⟩,
      ⟨"twice", .string, false, .none, ""⟩]⟩

/-- The first entry decides that the field needs an argument, and takes a number that is too large as
it is written. -/
theorem overlapping_asks : ∃ f, Factory.ofPlugin overlapping = some f ∧
    (f.build ⟨"twice", none⟩).isSome = false ∧
    ∃ x, f.build ⟨"twice", some "18446744073709551616"⟩ = some x ∧
      ∃ id info, overlapping.manifest.First "twice" id info ∧ ∀ (h : Host Scripted) e offsets,
        h.Makes (fun q a => q = overlapping ∧ ∃ r, a = .extract r ∧
          r.Asks id info (some "18446744073709551616") ∧ r.event = e ∧ r.offsets = offsets)
          (x.extract h e offsets).2 := by
  obtain ⟨f, made, bare, accepted⟩ : ∃ f ∈ Factory.ofPlugin overlapping,
      (f.build ⟨"twice", none⟩).isSome = false ∧
      (f.build ⟨"twice", some "18446744073709551616"⟩).isSome = true := by decide +kernel
  obtain ⟨x, built⟩ := Option.isSome_iff_exists.mp accepted
  have asks := Factory.ofPlugin_asks (π := Scripted) made ⟨"twice", some "18446744073709551616"⟩
  obtain ⟨id, info, first, requests⟩ := asks.2 x built
  exact ⟨f, made, bare, x, built, id, info, first, fun h e offsets => (requests h e offsets).1⟩

end Requests

end EventProbe
