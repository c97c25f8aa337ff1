import EventProbe.Plugins.Scripted
import EventProbe.Proofs.ExtractionAgreement
import EventProbe.Proofs.FieldTables
import EventProbe.Proofs.ProcessHistory
import Mathlib.Data.List.Basic

/-! Which fields a driver knows. The general fields come first; after them each plugin name contributes
the fields of the plugin that was first added under it, and what is asked for on the way makes no
difference. -/
namespace EventProbe

def Handle.addable (p : Handle) (source : String) : Bool :=
  p.manifest.can .fieldExtraction && p.manifest.reads source

def DriverCall.adds : DriverCall π → Option Handle
  | .addExtractors p source => if p.addable source then some p else none
  | _ => none

/-- The plugins that the calls of a driver add the fields of, oldest first and with repetitions. -/
def addedBy (i : Nat) (log : List (Exchange π)) : List Handle :=
  log.reverse.filterMap fun x => if x.driver = i then x.call.adds else none

/-- The first of these plugins under each name. -/
def contributors (added : List Handle) : List Handle :=
  (added.map Handle.name).eraseDups.filterMap fun name => added.find? (·.name == name)

section Contributors
variable {added : List Handle} {p : Handle} {names : List String}

theorem eraseDups_concat [BEq α] [LawfulBEq α] (list : List α) (a : α) :
    (list ++ [a]).eraseDups = if a ∈ list then list.eraseDups else list.eraseDups ++ [a] := by
  rw [List.eraseDups_append]
  by_cases known : a ∈ list
  · simp [known, List.removeAll]
  · simp [known, List.removeAll, List.eraseDups_cons]

theorem exists_first {name : String} (known : name ∈ added.map Handle.name) :
    ∃ p, added.find? (·.name == name) = some p ∧ p ∈ added ∧ p.name = name := by
  obtain ⟨q, there, rfl⟩ := List.mem_map.mp known
  have hit : (added.find? (·.name == q.name)).isSome = true := by
    rw [List.find?_isSome]
    exact ⟨q, there, beq_self_eq_true _⟩
  obtain ⟨p, found⟩ := Option.isSome_iff_exists.mp hit
  have same := List.find?_some found
  exact ⟨p, found, List.mem_of_find?_eq_some found, eq_of_beq same⟩

theorem map_name_firsts (known : ∀ name ∈ names, name ∈ added.map Handle.name) :
    (names.filterMap fun name => added.find? (·.name == name)).map Handle.name = names := by
  induction names with
  | nil => rfl
  | cons name rest ih =>
    obtain ⟨here, later⟩ := List.forall_mem_cons.mp known
    obtain ⟨p, found, _, rfl⟩ := exists_first here
    rw [List.filterMap_cons, found]
    exact congrArg (p.name :: ·) (ih later)

theorem map_name_contributors (added : List Handle) :
    (contributors added).map Handle.name = (added.map Handle.name).eraseDups := by
  apply map_name_firsts
  intro name listed
  exact List.mem_eraseDups.mp listed

theorem mem_of_mem_contributors (contributes : p ∈ contributors added) : p ∈ added := by
  obtain ⟨name, _, found⟩ := List.mem_filterMap.mp contributes
  exact List.mem_of_find?_eq_some found

/-- Another plugin of a known name contributes nothing; one of a new name comes last. -/
theorem contributors_concat (added : List Handle) (p : Handle) : contributors (added ++ [p]) =
    if p.name ∈ added.map Handle.name then contributors added else contributors added ++ [p] := by
  have earlier : ∀ name ∈ (added.map Handle.name).eraseDups,
      (added ++ [p]).find? (·.name == name) = added.find? (·.name == name) := by
    intro name listed
    obtain ⟨q, found, _⟩ := exists_first (List.mem_eraseDups.mp listed)
    rw [List.find?_append, found, Option.some_or]
  have same : (added.map Handle.name).eraseDups.filterMap
      (fun name => (added ++ [p]).find? (·.name == name)) = contributors added :=
    List.filterMap_congr earlier
  rw [contributors, List.map_append, List.map_singleton, eraseDups_concat]
  by_cases known : p.name ∈ added.map Handle.name
  · rw [if_pos known, if_pos known, same]
  · have absent : added.find? (·.name == p.name) = none := by
      apply List.find?_eq_none.mpr
      intro q there named
      exact known (List.mem_map.mpr ⟨q, there, eq_of_beq named⟩)
    rw [if_neg known, if_neg known, List.filterMap_append, same]
    simp [List.find?_append, absent]

end Contributors

/-! ## Factories -/

/-- A registry whose factories are the general one and those of the contributing plugins. -/
structure Extractors.Stocked (added : List Handle) (r : Extractors) : Prop where
  factories : r.factories = Factory.generic :: (contributors added).filterMap Factory.ofPlugin
  extracting : ∀ p ∈ added, p.manifest.can .fieldExtraction = true

section Stock
variable {added : List Handle} {p : Handle} {f : Factory} {r : Extractors} {d : Driver ι}

theorem Factory.exists_ofPlugin (extracts : p.manifest.can .fieldExtraction = true) :
    ∃ f, ofPlugin p = some f ∧ f.id = "plugin:" ++ p.name := by
  simp only [ofPlugin, extracts, if_true]
  exact ⟨_, rfl, rfl⟩

theorem map_id_factories {plugins : List Handle}
    (extracting : ∀ p ∈ plugins, p.manifest.can .fieldExtraction = true) :
    (plugins.filterMap Factory.ofPlugin).map Factory.id =
      (plugins.map Handle.name).map ("plugin:" ++ ·) := by
  induction plugins with
  | nil => rfl
  | cons p rest ih =>
    obtain ⟨here, extracting⟩ := List.forall_mem_cons.mp extracting
    obtain ⟨f, made, id⟩ := Factory.exists_ofPlugin here
    rw [List.filterMap_cons, made]
    simp only [List.map_cons, id, ih extracting]

namespace Extractors.Stocked

theorem ids_eq (stocked : r.Stocked added) :
    r.ids = "generic" :: (added.map Handle.name).eraseDups.map ("plugin:" ++ ·) := by
  have extracting : ∀ p ∈ contributors added, p.manifest.can .fieldExtraction = true :=
    fun p contributes => stocked.extracting p (mem_of_mem_contributors contributes)
  rw [ids, stocked.factories, List.map_cons, map_id_factories extracting, map_name_contributors]
  rfl

theorem generic_taken (stocked : r.Stocked added) :
    r.factories.any (·.id == Factory.generic.id) = true := by
  rw [stocked.factories, List.any_cons, beq_self_eq_true, Bool.true_or]

theorem plugin_taken_iff (stocked : r.Stocked added) (id : f.id = "plugin:" ++ p.name) :
    r.factories.any (·.id == f.id) = true ↔ p.name ∈ added.map Handle.name := by
  have listed : r.factories.any (·.id == f.id) = true ↔ f.id ∈ r.ids := by
    simp only [ids, List.any_eq_true, List.mem_map, beq_iff_eq]
  have other : "plugin:" ++ p.name ≠ "generic" := by
    intro same
    have first := congrArg (fun s => s.toList.head?) same
    simp at first
  rw [listed, stocked.ids_eq, id, List.mem_cons, or_iff_right other, List.mem_map]
  constructor
  · rintro ⟨name, known, same⟩
    have named : name = p.name := by
      apply String.toList_injective
      have chars := congrArg String.toList same
      simpa using chars
    rw [← named]
    exact List.mem_eraseDups.mp known
  · intro known
    exact ⟨p.name, List.mem_eraseDups.mpr known, rfl⟩

theorem fresh : Extractors.fresh.Stocked [] where
  factories := rfl
  extracting := by simp

theorem resolve (stocked : r.Stocked added) (field : String) : (r.resolve field).2.Stocked added where
  factories := (r.resolve_factories field).trans stocked.factories
  extracting := stocked.extracting

/-- To add the fields of a plugin of a known name, or of one that has none for the source, changes
nothing. -/
theorem addExtractors_known (stocked : d.extractors.Stocked added) {source : String}
    (known : p.addable source = false ∨ p.name ∈ added.map Handle.name) :
    d.addExtractors p source = d := by
  unfold Handle.addable at known
  unfold Driver.addExtractors
  split
  · rename_i addable
    have known := known.resolve_left (by simp [addable])
    obtain ⟨extracts, _⟩ := Bool.and_eq_true_iff.mp addable
    obtain ⟨f, made, id⟩ := Factory.exists_ofPlugin extracts
    have taken := add_of_taken ((stocked.plugin_taken_iff id).mpr known)
    simp only [add_of_taken stocked.generic_taken, made, taken]
  · rfl

theorem addExtractors_new (stocked : d.extractors.Stocked added) {source : String}
    (addable : p.addable source = true) (new : p.name ∉ added.map Handle.name) :
    (d.addExtractors p source).extractors.Stocked (added ++ [p]) := by
  obtain ⟨extracts, _⟩ := Bool.and_eq_true_iff.mp addable
  obtain ⟨f, made, id⟩ := Factory.exists_ofPlugin extracts
  have free : d.extractors.factories.any (·.id == f.id) = false := by
    rw [← Bool.not_eq_true, stocked.plugin_taken_iff id]
    exact new
  have changed : d.addExtractors p source =
      { d with extractors := { d.extractors with factories := d.extractors.factories ++ [f] } } := by
    unfold Handle.addable at addable
    simp only [Driver.addExtractors, addable, if_true, add_of_taken stocked.generic_taken, made,
      add_of_new free]
  constructor
  · simp only [changed, contributors_concat, if_neg new, stocked.factories, List.filterMap_append,
      List.filterMap_cons, made, List.filterMap_nil, List.cons_append]
  · intro q there
    obtain old | rfl := (List.mem_append.mp there).imp_right List.mem_singleton.mp
    · exact stocked.extracting q old
    · exact extracts

theorem repeated (stocked : r.Stocked added) (extracts : p.manifest.can .fieldExtraction = true)
    (known : p.name ∈ added.map Handle.name) : r.Stocked (added ++ [p]) where
  factories := by rw [contributors_concat, if_pos known, stocked.factories]
  extracting := by
    intro q there
    obtain old | rfl := (List.mem_append.mp there).imp_right List.mem_singleton.mp
    · exact stocked.extracting q old
    · exact extracts

theorem addExtractors (stocked : d.extractors.Stocked added) (p : Handle) (source : String) :
    (d.addExtractors p source).extractors.Stocked
      (added ++ (if p.addable source then some p else none).toList) := by
  cases addable : p.addable source with
  | false =>
    rw [stocked.addExtractors_known (.inl addable)]
    simpa using stocked
  | true =>
    by_cases known : p.name ∈ added.map Handle.name
    · rw [stocked.addExtractors_known (.inr known)]
      exact stocked.repeated (Bool.and_eq_true_iff.mp addable).1 known
    · exact stocked.addExtractors_new addable known

theorem perform [Plugin π ι] (stocked : d.extractors.Stocked added) (h : Host π) (c : DriverCall π) :
    (d.perform h c).2.1.extractors.Stocked (added ++ c.adds.toList) := by
  by_cases adds : ∃ p source, c = .addExtractors p source
  · obtain ⟨p, source, rfl⟩ := adds
    exact stocked.addExtractors p source
  · have rest : ∀ p source, c ≠ .addExtractors p source := fun p source same => adds ⟨p, source, same⟩
    have none : c.adds = none := by
      cases c with
      | addExtractors p source => exact absurd rfl (rest p source)
      | _ => rfl
    rw [none, Option.toList_none, List.append_nil]
    obtain same | ⟨field, resolved⟩ := d.perform_extractors h rest
    · rwa [same]
    · rw [resolved]
      exact stocked.resolve field

end Extractors.Stocked

end Stock

/-! ## Resolution -/

/-- A plugin has a field of this name that may be written in this form. -/
def Handle.Accepts (p : Handle) (field : FieldName) : Prop :=
  ∃ id info, p.Declares field id info

section Resolution
variable {added plugins before after : List Handle} {p : Handle} {field : FieldName} {x : Extractor}
  {r : Extractors} {id : Nat} {info : FieldInfo}

def Handle.provides (p : Handle) (field : FieldName) : Option Extractor :=
  (Factory.ofPlugin p).bind (·.build field)

theorem provides_iff (extracts : p.manifest.can .fieldExtraction = true) :
    p.provides field = some x ↔ ∃ id info, p.Declares field id info ∧ x = .plugin field p id info := by
  obtain ⟨f, made, _⟩ := Factory.exists_ofPlugin extracts
  rw [Handle.provides, made, Option.bind_some, Factory.ofPlugin_build_iff made]

theorem provides_eq_none_iff (extracts : p.manifest.can .fieldExtraction = true) :
    p.provides field = none ↔ ¬ p.Accepts field := by
  constructor
  · rintro none ⟨id, info, declares⟩
    have some := (provides_iff extracts).mpr ⟨id, info, declares, rfl⟩
    cases none.symm.trans some
  · intro refuses
    apply Option.eq_none_iff_forall_ne_some.mpr
    intro x provided
    obtain ⟨id, info, declares, _⟩ := (provides_iff extracts).mp provided
    exact refuses ⟨id, info, declares⟩

/-- A factory for each plugin, asked in order, is the first plugin that provides the field. -/
theorem findSome_factories (plugins : List Handle) (field : FieldName) :
    (plugins.filterMap Factory.ofPlugin).findSome? (·.build field) =
      plugins.findSome? (·.provides field) := by
  induction plugins with
  | nil => rfl
  | cons p rest ih =>
    rw [List.findSome?_cons, ← ih, List.filterMap_cons, Handle.provides]
    cases Factory.ofPlugin p with
    | none => rfl
    | some f => rw [List.findSome?_cons, Option.bind_some]

namespace Extractors.Stocked

theorem contributor_extracts (stocked : r.Stocked added) (contributes : p ∈ contributors added) :
    p.manifest.can .fieldExtraction = true :=
  stocked.extracting p (mem_of_mem_contributors contributes)

theorem build_generic (stocked : r.Stocked added) {kind : GenericField}
    (parsed : FieldName.parse name = .ok field) (fits : kind.Fits field) :
    r.build name = .ok (.generic field kind) := by
  have built := Factory.generic_build_iff.mpr ⟨kind, fits, rfl⟩
  simp only [build, parsed, stocked.factories, List.findSome?_cons, built]

theorem build_plugin (stocked : r.Stocked added) (parsed : FieldName.parse name = .ok field)
    (special : ∀ kind : GenericField, ¬ kind.Fits field) :
    r.build name = match (contributors added).findSome? (·.provides field) with
      | some x => .ok x
      | none => .error (.unknown name) := by
  have unbuilt : Factory.generic.build field = none := by
    apply Option.eq_none_iff_forall_ne_some.mpr
    intro x built
    obtain ⟨kind, fits, _⟩ := Factory.generic_build_iff.mp built
    exact special kind fits
  cases given : (contributors added).findSome? (·.provides field) <;>
    simp only [build, parsed, stocked.factories, List.findSome?_cons, unbuilt,
      findSome_factories, given]

theorem builds_iff (stocked : r.Stocked added) (parsed : FieldName.parse name = .ok field)
    (special : ∀ kind : GenericField, ¬ kind.Fits field) :
    (∃ x, r.build name = .ok x) ↔ ∃ p ∈ contributors added, p.Accepts field := by
  have none : (contributors added).findSome? (·.provides field) = none ↔
      ¬ ∃ p ∈ contributors added, p.Accepts field := by
    rw [List.findSome?_eq_none_iff]
    constructor
    · rintro refused ⟨p, contributes, accepts⟩
      have extracts := stocked.contributor_extracts contributes
      exact (provides_eq_none_iff extracts).mp (refused p contributes) accepts
    · intro nobody p contributes
      apply (provides_eq_none_iff (stocked.contributor_extracts contributes)).mpr
      intro accepts
      exact nobody ⟨p, contributes, accepts⟩
  rw [stocked.build_plugin parsed special]
  cases found : (contributors added).findSome? (·.provides field) with
  | none =>
    have nobody := none.mp found
    simp [nobody]
  | some x =>
    have somebody : ∃ p ∈ contributors added, p.Accepts field := by
      by_contra nobody
      cases found.symm.trans (none.mpr nobody)
    simp [somebody]

theorem build_first (stocked : r.Stocked added) (parsed : FieldName.parse name = .ok field)
    (special : ∀ kind : GenericField, ¬ kind.Fits field)
    (split : contributors added = before ++ p :: after) (refused : ∀ q ∈ before, ¬ q.Accepts field)
    (declares : p.Declares field id info) : r.build name = .ok (.plugin field p id info) := by
  have extracts : ∀ q ∈ before ++ p :: after, q.manifest.can .fieldExtraction = true := by
    rw [← split]
    exact fun q contributes => stocked.contributor_extracts contributes
  have found : (contributors added).findSome? (·.provides field) = some (.plugin field p id info) := by
    rw [List.findSome?_eq_some_iff]
    refine ⟨before, p, after, split, ?_, ?_⟩
    · rw [provides_iff (extracts p (by simp))]
      exact ⟨id, info, declares, rfl⟩
    · intro q earlier
      rw [provides_eq_none_iff (extracts q (by simp [earlier]))]
      exact refused q earlier
  rw [stocked.build_plugin parsed special, found]

end Extractors.Stocked

end Resolution

/-- What fields a driver knows after the fields of these plugins were added. -/
structure Driver.Offers (d : Driver ι) (added : List Handle) : Prop where
  ids : d.extractors.ids =
    "generic" :: (added.map Handle.name).eraseDups.map ("plugin:" ++ ·)
  known : ∀ p source, (p.addable source = false ∨ p.name ∈ added.map Handle.name) →
    d.addExtractors p source = d
  badName : ∀ name fault, FieldName.parse name = .error fault →
    (d.extractors.resolve name).1 = .error (.badName name fault)
  /-- A field that every event has is served as such, whatever plugins declare. -/
  general : ∀ name field kind, FieldName.parse name = .ok field → GenericField.Fits kind field →
    (d.extractors.resolve name).1 = .ok (.generic field kind)
  resolves : ∀ name field, FieldName.parse name = .ok field →
    (∀ kind, ¬ GenericField.Fits kind field) →
    ((∃ x, (d.extractors.resolve name).1 = .ok x) ↔ ∃ p ∈ contributors added, p.Accepts field)
  /-- It is the first plugin that accepts a field that serves it. -/
  first : ∀ name field before p after id info, FieldName.parse name = .ok field →
    (∀ kind, ¬ GenericField.Fits kind field) → contributors added = before ++ p :: after →
    (∀ q ∈ before, ¬ q.Accepts field) → p.Declares field id info →
    (d.extractors.resolve name).1 = .ok (.plugin field p id info)

theorem Extractors.Stocked.offers {d : Driver ι} (stocked : d.extractors.Stocked added)
    (coherent : d.extractors.Coherent) : d.Offers added where
  ids := stocked.ids_eq
  known _ _ := stocked.addExtractors_known
  badName name fault parsed := by
    rw [coherent.resolve_eq]
    simp only [build, parsed]
  general name field kind parsed fits := by
    rw [coherent.resolve_eq]
    exact stocked.build_generic parsed fits
  resolves name field parsed special := by
    rw [coherent.resolve_eq]
    exact stocked.builds_iff parsed special
  first name field before p after id info parsed special split refused declares := by
    rw [coherent.resolve_eq]
    exact stocked.build_first parsed special split refused declares

namespace Process
variable [Plugin π ι] {p : Process π ι} {log : List (Exchange π)} {d : Driver ι} {i : Nat}

theorem Run.stocked (run : Run p log) (there : p.driver? i = some d) :
    d.extractors.Stocked (addedBy i log) := by
  refine Run.tracks (fun i log d => d.extractors.Stocked (addedBy i log)) ?_ ?_ ?_ run there
  · intro i log id hostname flags unlogged
    have none : addedBy i log = [] := by
      apply List.filterMap_eq_nil_iff.mpr
      intro x logged
      rw [if_neg (unlogged x (List.mem_reverse.mp logged))]
    rw [none]
    exact .fresh
  · intro i log d h c stocked
    have added : addedBy i (⟨i, c, (d.perform h c).1, d.delivered h c⟩ :: log) =
        addedBy i log ++ c.adds.toList := by
      simp only [addedBy, List.reverse_cons, List.filterMap_append]
      cases adds : c.adds <;> simp [adds]
    rw [added]
    exact stocked.perform h c
  · intro i log d x other stocked
    have same : addedBy i (x :: log) = addedBy i log := by
      simp [addedBy, other]
    rw [same]
    exact stocked

/-- In every state of a run, a driver knows the general fields and those of the plugins that were added
first under their names, and resolves fields in this order. -/
theorem Run.fields_offered (run : Run p log) (there : p.driver? i = some d) :
    d.Offers (addedBy i log) :=
  (run.stocked there).offers (run.coherent there)

/-- A plugin that declares a general field, and one field that it shares with others. -/
def sharer (slot : Nat) (name : String) (argument : ArgumentRule) : Handle :=
  ⟨slot, name, "", "", .of [.fieldExtraction], none, ["letters"],
    [⟨"evt.num", .uint64, false, .none, ""⟩, ⟨"shared", .string, false, argument, ""⟩]⟩

/-- Two plugins are added, the first of them twice, after a field was asked for in vain. -/
def sharing : Process Scripted Scripted.Stream × List (Exchange Scripted) :=
  let script : Scripted := ⟨none, none, .labelled "", [], [], []⟩
  let indexed := sharer 0 "indexed" .anIndex
  let bare := sharer 1 "bare" .none
  let fresh : Process Scripted Scripted.Stream := ⟨Host.fresh .bare, []⟩
  (fresh.create .default).play [] [
    (0, .register (Scripted.descriptor indexed.manifest none script) ""),
    (0, .register (Scripted.descriptor bare.manifest none script) ""),
    (0, .addExtractors bare "numbers"), (0, .addExtractors indexed "letters"),
    (0, .extractText "shared" ⟨1, none⟩), (0, .addExtractors bare "letters"),
    (0, .addExtractors indexed "letters")]

/-- The first plugin does not take the shared field without an argument, so the second serves it. -/
theorem sharing_fields_offered :
    let indexed := sharer 0 "indexed" .anIndex
    let bare := sharer 1 "bare" .none
    ∃ d, sharing.1.driver? 0 = some d ∧ d.Offers [indexed, bare, indexed] ∧
      d.extractors.ids = ["generic", "plugin:indexed", "plugin:bare"] ∧
      (d.extractors.resolve "evt.num").1 = .ok (.generic ⟨"evt.num", none⟩ .num) ∧
      (d.extractors.resolve "shared").1 =
        .ok (.plugin ⟨"shared", none⟩ bare 1 ⟨"shared", .string, false, .none, ""⟩) := by
  intro indexed bare
  have run : Run sharing.1 sharing.2 := .play (.create .default (.start .bare)) _
  have ready : ∃ d, sharing.1.driver? 0 = some d := Option.isSome_iff_exists.mp (by decide +kernel)
  obtain ⟨d, there⟩ := ready
  have added : addedBy 0 sharing.2 = [indexed, bare, indexed] := by decide +kernel
  have offers := run.fields_offered there
  rw [added] at offers
  have special : ∀ kind, ¬ GenericField.Fits kind ⟨"shared", none⟩ := by
    intro kind fits
    have path := fits.path
    cases kind <;> exact absurd path (by decide)
  refine ⟨d, there, offers, offers.ids, ?_, ?_⟩
  · exact offers.general "evt.num" ⟨"evt.num", none⟩ .num rfl ⟨rfl, rfl⟩
  · apply offers.first "shared" ⟨"shared", none⟩ [indexed] bare [] 1 _ rfl special (by decide +kernel)
    · intro q earlier
      cases List.mem_singleton.mp earlier
      exact (provides_eq_none_iff (by decide)).mp (by decide +kernel)
    · have provided : bare.provides ⟨"shared", none⟩ =
          some (.plugin _ bare 1 ⟨"shared", .string, false, .none, ""⟩) := rfl
      obtain ⟨id, info, declares, same⟩ := (provides_iff (by decide)).mp provided
      cases same
      exact declares

end Process

end EventProbe
