import EventProbe.Extractors
import EventProbe.Plugins.Bundled
import EventProbe.Proofs.FieldNameText
import EventProbe.Proofs.FieldTables

/-! The cache of an extractor registry does not show in its answers. Factories are only added after
the others, so that the first one to accept a field stays the first while its extractor is kept. -/
namespace EventProbe

/-- A factory whose extractors are for the field that they were asked for. -/
def Factory.KeepsField (f : Factory) : Prop :=
  ∀ field x, f.build field = some x → x.field = field

theorem Factory.generic_keepsField : generic.KeepsField := by
  intro field x built
  obtain ⟨kind, _, rfl⟩ := generic_build_iff.mp built
  rfl

theorem Factory.ofPlugin_keepsField (made : ofPlugin p = some f) : f.KeepsField := by
  intro field x built
  obtain ⟨id, info, _, rfl⟩ := (ofPlugin_build_iff made).mp built
  rfl

namespace Extractors

/-- What factories answer to a name, asked in order: it is not a field name, or no factory accepts
the field, or the first that accepts it builds the extractor. -/
inductive Serves (factories : List Factory) (name : String) :
    Except ResolveFault Extractor → Prop where
  | badName : FieldName.parse name = .error fault →
      Serves factories name (.error (.badName name fault))
  | unknown : FieldName.parse name = .ok field → (∀ f ∈ factories, f.build field = none) →
      Serves factories name (.error (.unknown name))
  | found {earlier later : List Factory} : FieldName.parse name = .ok field →
      factories = earlier ++ f :: later → (∀ g ∈ earlier, g.build field = none) →
      f.build field = some x → Serves factories name (.ok x)

theorem serves_build (r : Extractors) (name : String) : Serves r.factories name (r.build name) := by
  unfold build
  cases parsed : FieldName.parse name with
  | error fault => exact .badName parsed
  | ok field =>
    dsimp only
    split
    · rename_i x first
      obtain ⟨earlier, f, later, split, built, none⟩ := List.findSome?_eq_some_iff.mp first
      exact .found parsed split none built
    · rename_i first
      exact .unknown parsed (List.findSome?_eq_none_iff.mp first)

theorem Serves.eq_build {r : Extractors} (serves : Serves r.factories name answer) :
    answer = r.build name := by
  unfold build
  cases serves with
  | badName parsed => simp only [parsed]
  | unknown parsed none => simp only [parsed, List.findSome?_eq_none_iff.mpr none]
  | found parsed split none built =>
    simp only [parsed, List.findSome?_eq_some_iff.mpr ⟨_, _, _, split, built, none⟩]

/-- A factory that is added after the others does not take a field away from them. -/
theorem Serves.add {list : List Factory} (serves : Serves list name (.ok x)) (f : Factory) :
    Serves (list ++ [f]) name (.ok x) := by
  cases serves with
  | found parsed split none built =>
    exact .found parsed (by rw [split, List.append_assoc, List.cons_append]) none built

/-- What holds of every registry: extractors are kept under the text of their field, and each is the
one that the factories would build now. -/
structure Coherent (r : Extractors) : Prop where
  ids : r.ids.Nodup
  keeps : ∀ f ∈ r.factories, f.KeepsField
  cached : ∀ name x, (name, x) ∈ r.cache → Serves r.factories name (.ok x)

section Registry
variable {r : Extractors}

theorem resolve_of_lookup (hit : r.cache.lookup name = some x) : r.resolve name = (.ok x, r) := by
  simp only [resolve, hit]

theorem resolve_of_build (miss : r.cache.lookup name = none) (built : r.build name = .ok x) :
    r.resolve name = (.ok x, { r with cache := (name, x) :: r.cache }) := by
  simp only [resolve, miss, built]

theorem resolve_of_error (miss : r.cache.lookup name = none) (failed : r.build name = .error fault) :
    r.resolve name = (.error fault, r) := by
  simp only [resolve, miss, failed]

theorem add_of_taken (taken : r.factories.any (·.id == f.id) = true) : r.add f = (false, r) := by
  simp only [add, taken, if_true]

theorem add_of_new (new : r.factories.any (·.id == f.id) = false) :
    r.add f = (true, { r with factories := r.factories ++ [f] }) := by
  simp only [add, new, Bool.false_eq_true, if_false]

theorem mem_of_lookup (hit : r.cache.lookup name = some x) : (name, x) ∈ r.cache := by
  obtain ⟨before, after, split, _⟩ := List.lookup_eq_some_iff.mp hit
  rw [split]
  exact List.mem_append_right _ List.mem_cons_self

/-- Whether an extractor is kept or built makes no difference. -/
theorem Coherent.resolve_eq (coherent : r.Coherent) (name : String) :
    (r.resolve name).1 = r.build name := by
  cases kept : r.cache.lookup name with
  | some x =>
    rw [resolve_of_lookup kept]
    exact (coherent.cached name x (mem_of_lookup kept)).eq_build
  | none =>
    cases built : r.build name with
    | ok x => rw [resolve_of_build kept built]
    | error fault => rw [resolve_of_error kept built]

theorem resolve_factories (r : Extractors) (name : String) :
    (r.resolve name).2.factories = r.factories := by
  unfold resolve
  split
  · rfl
  · split <;> rfl

theorem Coherent.fresh : fresh.Coherent where
  ids := by decide
  keeps := by
    intro f added
    cases List.mem_singleton.mp added
    exact Factory.generic_keepsField
  cached := by
    intro name x kept
    cases kept

theorem Coherent.clear (r : Extractors) : r.clear.Coherent where
  ids := List.nodup_nil
  keeps := by
    intro f added
    cases added
  cached := by
    intro name x kept
    cases kept

theorem Coherent.add (coherent : r.Coherent) (keeps : f.KeepsField) : (r.add f).2.Coherent := by
  cases taken : r.factories.any (·.id == f.id) with
  | true => rwa [add_of_taken taken]
  | false =>
    rw [add_of_new taken]
    constructor
    · have other : ∀ id ∈ r.ids, ∀ new ∈ [f.id], id ≠ new := by
        intro id held new added same
        cases List.mem_singleton.mp added
        obtain ⟨g, known, rfl⟩ := List.mem_map.mp held
        exact List.any_eq_false.mp taken g known (beq_iff_eq.mpr same)
      have all : ({ r with factories := r.factories ++ [f] } : Extractors).ids = r.ids ++ [f.id] :=
        List.map_append
      rw [all]
      exact List.nodup_append.mpr ⟨coherent.ids, List.pairwise_singleton _ f.id, other⟩
    · intro g added
      obtain old | new := List.mem_append.mp added
      · exact coherent.keeps g old
      · cases List.mem_singleton.mp new
        exact keeps
    · intro name x kept
      exact (coherent.cached name x kept).add f

theorem Coherent.resolve (coherent : r.Coherent) (name : String) : (r.resolve name).2.Coherent := by
  cases kept : r.cache.lookup name with
  | some x => rwa [resolve_of_lookup kept]
  | none =>
    cases built : r.build name with
    | error fault => rwa [resolve_of_error kept built]
    | ok x =>
      rw [resolve_of_build kept built]
      refine ⟨coherent.ids, coherent.keeps, ?_⟩
      intro other y held
      obtain new | old := List.mem_cons.mp held
      · cases new
        rw [← built]
        exact r.serves_build name
      · exact coherent.cached other y old

theorem Coherent.field_text (coherent : r.Coherent) (kept : (name, x) ∈ r.cache) :
    x.field.text = name := by
  cases coherent.cached name x kept with
  | found parsed split _ built =>
    have added : _ ∈ r.factories := split ▸ List.mem_append_right _ List.mem_cons_self
    rw [coherent.keeps _ added _ _ built]
    exact FieldName.text_of_parse parsed

end Registry

inductive Operation where
  | add (f : Factory)
  | resolve (name : String)
  | clear

inductive Answer where
  | added (new : Bool)
  | resolved (result : Except ResolveFault Extractor)
  | cleared

def perform (r : Extractors) : Operation → Answer × Extractors
  | .add f =>
    let (new, r) := r.add f
    (.added new, r)
  | .resolve name =>
    let (result, r) := r.resolve name
    (.resolved result, r)
  | .clear => (.cleared, r.clear)

def performUncached (list : List Factory) : Operation → Answer × List Factory
  | .add f => if list.any (·.id == f.id) then (.added false, list) else (.added true, list ++ [f])
  | .resolve name => (.resolved (build ⟨list, []⟩ name), list)
  | .clear => (.cleared, [])

def run (step : σ → Operation → Answer × σ) (s : σ) : List Operation → List Answer × σ
  | [] => ([], s)
  | op :: rest =>
    let (answer, s) := step s op
    let (answers, s) := run step s rest
    (answer :: answers, s)

/-- An operation that adds no factory whose extractors are for other fields. -/
def Operation.Keeps (op : Operation) : Prop :=
  ∀ f, op = .add f → f.KeepsField

/-- An operation answers as it does without a cache, and leaves the same factories. -/
theorem Coherent.perform_eq {r : Extractors} (coherent : r.Coherent) (op : Operation) :
    performUncached r.factories op = ((r.perform op).1, (r.perform op).2.factories) := by
  cases op with
  | add f =>
    cases taken : r.factories.any (·.id == f.id) with
    | true => simp only [performUncached, perform, taken, add_of_taken taken, if_true]
    | false =>
      simp only [performUncached, perform, taken, add_of_new taken, Bool.false_eq_true, if_false]
  | resolve name =>
    have answer := coherent.resolve_eq name
    have same := r.resolve_factories name
    simp only [performUncached, perform, answer, same]
    rfl
  | clear => rfl

theorem Coherent.perform {r : Extractors} (coherent : r.Coherent) (keeps : op.Keeps) :
    (r.perform op).2.Coherent := by
  cases op with
  | add f => exact coherent.add (keeps f rfl)
  | resolve name => exact coherent.resolve name
  | clear => exact .clear r

theorem Coherent.run {r : Extractors} (coherent : r.Coherent) (ops : List Operation)
    (keeps : ∀ op ∈ ops, op.Keeps) :
    (Extractors.run Extractors.perform r ops).2.Coherent ∧
      (Extractors.run Extractors.perform r ops).1 =
        (Extractors.run performUncached r.factories ops).1 := by
  induction ops generalizing r with
  | nil => exact ⟨coherent, rfl⟩
  | cons op rest ih =>
    obtain ⟨here, keeps⟩ := List.forall_mem_cons.mp keeps
    obtain ⟨reached, answers⟩ := ih (coherent.perform here) keeps
    refine ⟨reached, ?_⟩
    simp only [Extractors.run, coherent.perform_eq op, answers]

/-- What a caller of a registry can rely on: it answers as its factories do, and an operation that
fails changes nothing. -/
structure Transparent (r : Extractors) : Prop where
  answers : ∀ name, Serves r.factories name (r.resolve name).1
  ids : r.ids.Nodup
  cached : ∀ name x, (name, x) ∈ r.cache → x.field.text = name ∧ Serves r.factories name (.ok x)
  failed : ∀ name fault, (r.resolve name).1 = .error fault → (r.resolve name).2 = r
  refused : ∀ f, (r.add f).1 = false → (r.add f).2 = r

theorem resolve_failed {r : Extractors} (failed : (r.resolve name).1 = .error fault) :
    (r.resolve name).2 = r := by
  cases kept : r.cache.lookup name with
  | some x =>
    rw [resolve_of_lookup kept] at failed
    cases failed
  | none =>
    cases built : r.build name with
    | ok x =>
      rw [resolve_of_build kept built] at failed
      cases failed
    | error fault => rw [resolve_of_error kept built]

theorem add_refused {r : Extractors} (refused : (r.add f).1 = false) : (r.add f).2 = r := by
  cases taken : r.factories.any (·.id == f.id) with
  | true => rw [add_of_taken taken]
  | false =>
    rw [add_of_new taken] at refused
    cases refused

theorem Coherent.transparent {r : Extractors} (coherent : r.Coherent) : r.Transparent where
  answers name := by
    rw [coherent.resolve_eq name]
    exact r.serves_build name
  ids := coherent.ids
  cached name x kept := ⟨coherent.field_text kept, coherent.cached name x kept⟩
  failed _ _ := resolve_failed
  refused _ := add_refused

/-- Any operations of a registry are answered as by one without a cache. -/
theorem cache_transparent (ops : List Operation) (keeps : ∀ op ∈ ops, op.Keeps) :
    (run perform fresh ops).1 = (run performUncached [Factory.generic] ops).1 ∧
      (run perform fresh ops).2.Transparent :=
  have reached := Coherent.fresh.run ops keeps
  ⟨reached.2, reached.1.transparent⟩

def ticks : Option Factory :=
  Factory.ofPlugin ⟨0, TestSource.descriptor.manifest⟩

/-- A field is not known before its factory is added, then it is built, and then kept. -/
theorem cache_transparent_ticks : ∃ f, ticks = some f ∧
    (run perform fresh [.resolve "test.tick", .add f, .resolve "test.tick", .add f,
      .resolve "test.tick"]).2.Transparent ∧
    (run perform fresh [.resolve "test.tick", .add f, .resolve "test.tick", .add f,
      .resolve "test.tick"]).2.cache.length = 1 := by
  obtain ⟨f, made⟩ : ∃ f, ticks = some f := ⟨_, rfl⟩
  have keeps : ∀ op ∈ [Operation.resolve "test.tick", .add f, .resolve "test.tick", .add f,
      .resolve "test.tick"], op.Keeps := by
    simp only [List.mem_cons, List.not_mem_nil, or_false]
    rintro op (rfl | rfl | rfl | rfl | rfl) g added <;> cases added
    all_goals exact Factory.ofPlugin_keepsField made
  refine ⟨f, made, (cache_transparent _ keeps).2, ?_⟩
  cases made
  decide +kernel

end Extractors

end EventProbe
