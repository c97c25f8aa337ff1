import EventProbe.Dump
import EventProbe.Proofs.FieldAvailability
import EventProbe.Proofs.MetricSnapshots
import EventProbe.Proofs.RegistryHistory

/-! The extractors that a command line lists. Every plugin that is new is registered where it is first
named, up to the first that is unknown or does not accept an empty configuration; so repeats in the list
make no difference, and no registration ever meets a taken name. -/
namespace EventProbe

/-- The plugin of a name, made with an empty configuration, if that is possible. -/
def Bundled.made? (name : String) : Option (Slot Bundled) :=
  match find? name with
  | none => none
  | some d =>
    match d.init "" with
    | .ok state => some ⟨d.manifest, state⟩
    | _ => none

namespace Dump

/-- The names that are not known, each where it is first given. -/
def newNames (known names : List String) : List String :=
  (names.filter fun name => !known.contains name).eraseDups

/-- Why a name is not registered: no plugin has it, or the plugin does not accept an empty
configuration. -/
inductive Rejects (name : String) : Failure → Prop where
  | unknown : (∀ d ∈ Bundled.all, d.manifest.name ≠ name) → Rejects name (.unknownPlugin name)
  | refuses : d ∈ Bundled.all → d.manifest.name = name → d.init "" = .failed message →
      Rejects name (.driver (.initialization (.refused name message)))

namespace Session

def handles (s : Session) (names : List String) : List Handle :=
  (names.filterMap Bundled.made?).mapIdx fun i slot => ⟨s.host.slots.length + i, slot.manifest⟩

/-- The session with more plugins, each made with an empty configuration, and with their fields for a
source. -/
def grown (s : Session) (source : String) (handles : List Handle) (slots : List (Slot Bundled))
    (names : List String) : Session :=
  let registry : Registry := ⟨s.driver.engine.registry.plugins ++ handles⟩
  let calls := handles.map fun p => (⟨p.slot, p.name, .init ""⟩ : Call)
  { driver := handles.foldl (fun d p => d.addExtractors p source)
      { s.driver with engine := { s.driver.engine with registry } }
    host := { s.host with slots := s.host.slots ++ slots, journal := s.host.journal ++ calls.toArray }
    registered := s.registered ++ names }

/-- The session with the plugins of some names besides, made one after another. -/
def extended (s : Session) (source : String) (names : List String) : Session :=
  s.grown source (s.handles names) (names.filterMap Bundled.made?) names

/-- The session after a plugin did not accept its configuration; a plugin that does not exist was not
asked. -/
def trying (s : Session) (name : String) : Session :=
  if (Bundled.find? name).isSome then
    { s with host := s.host.record s.host.slots.length name (.init "") }
  else s

/-- What the registration of names comes to: all are registered, or those before the first that is
rejected. -/
inductive Comes (s : Session) (source : String) :
    List String → Except Failure Unit × Session → Prop where
  | all : (∀ name ∈ names, (Bundled.made? name).isSome = true) →
      Comes s source names (.ok (), s.extended source names)
  | stopped {failure : Failure} :
      (∀ earlier ∈ before, (Bundled.made? earlier).isSome = true) → Rejects name failure →
      Comes s source (before ++ name :: after)
        (.error failure, (s.extended source before).trying name)

end Session

end Dump

/-! ## Plugins by name -/

namespace Bundled
variable {name : String} {d : Descriptor Bundled}

theorem find?_eq_some (found : find? name = some d) : d ∈ all ∧ d.manifest.name = name := by
  have named := List.find?_some found
  exact ⟨List.mem_of_find?_eq_some found, eq_of_beq named⟩

theorem find?_eq_none : find? name = none ↔ ∀ d ∈ all, d.manifest.name ≠ name := by
  simp [find?, List.find?_eq_none]

theorem find?_of_mem (bundled : d ∈ all) : find? d.manifest.name = some d := by
  simp only [all, List.mem_cons, List.not_mem_nil, or_false] at bundled
  obtain rfl | rfl | rfl | rfl | rfl := bundled <;> rfl

theorem capable_of_mem (bundled : d ∈ all) : ∃ c, d.manifest.can c = true := by
  have capable : ∀ d ∈ all, d.manifest.capabilities.isEmpty = false := by
    simp only [all, List.forall_mem_cons]
    decide
  exact Registry.capable_iff.mpr (capable d bundled)

theorem made?_eq_some {slot : Slot Bundled} (made : made? name = some slot) :
    slot.manifest.name = name := by
  unfold made? at made
  split at made
  · cases made
  · rename_i found
    split at made <;> cases made
    exact (find?_eq_some found).2

theorem init_empty (bundled : d ∈ all) :
    (∃ state, d.init "" = .ok state) ∨ ∃ message, d.init "" = .failed message := by
  simp only [all, List.mem_cons, List.not_mem_nil, or_false] at bundled
  obtain rfl | rfl | rfl | rfl | rfl := bundled
  · exact .inl ⟨_, rfl⟩
  · exact .inl ⟨_, rfl⟩
  · exact .inr ⟨_, rfl⟩
  · exact .inl ⟨_, rfl⟩
  · exact .inl ⟨_, rfl⟩

end Bundled

namespace Dump

section Names
variable {known names before after : List String} {name : String}

theorem mem_newNames : name ∈ newNames known names ↔ name ∈ names ∧ name ∉ known := by
  simp [newNames]

theorem newNames_cons_known (taken : name ∈ known) (rest : List String) :
    newNames known (name :: rest) = newNames known rest := by
  simp [newNames, taken]

theorem newNames_cons_new (new : name ∉ known) (rest : List String) :
    newNames known (name :: rest) = name :: newNames (known ++ [name]) rest := by
  simp only [newNames]
  rw [List.filter_cons_of_pos (by simpa using new), List.eraseDups_cons, List.filter_filter]
  congr 2
  apply List.filter_congr
  intro other _
  simp [Bool.and_comm, Bool.beq_eq_decide_eq]

theorem newNames_concat (known names : List String) (name : String) : newNames known (names ++ [name]) =
    if name ∈ known ∨ name ∈ names then newNames known names else newNames known names ++ [name] := by
  simp only [newNames, List.filter_append]
  by_cases taken : name ∈ known
  · simp [taken]
  · rw [List.filter_cons_of_pos (by simpa using taken), List.filter_nil, eraseDups_concat]
    simp [taken]

/-- Later repeats bring no new names. -/
theorem newNames_eraseDups (known names : List String) : newNames known names.eraseDups = newNames known names := by
  induction names using List.reverseRecOn with
  | nil => rfl
  | append_singleton names name ih =>
    rw [eraseDups_concat, newNames_concat]
    by_cases seen : name ∈ names
    · rw [if_pos seen, if_pos (.inr seen), ih]
    · rw [if_neg seen, newNames_concat, ih]
      simp only [List.mem_eraseDups]

theorem newNames_repeat (seen : name ∈ known ∨ name ∈ before) (after : List String) :
    newNames known (before ++ name :: after) = newNames known (before ++ after) := by
  induction before generalizing known with
  | nil => exact newNames_cons_known (seen.resolve_right List.not_mem_nil) after
  | cons first before ih =>
    rw [List.mem_cons] at seen
    rw [List.cons_append, List.cons_append]
    by_cases taken : first ∈ known
    · rw [newNames_cons_known taken, newNames_cons_known taken]
      apply ih
      obtain there | rfl | there := seen
      · exact .inl there
      · exact .inl taken
      · exact .inr there
    · rw [newNames_cons_new taken, newNames_cons_new taken]
      congr 1
      apply ih
      rw [List.mem_append, List.mem_singleton, or_assoc]
      exact seen

theorem newNames_again (known names : List String) : newNames (known ++ newNames known names) names = [] := by
  apply List.eq_nil_iff_forall_not_mem.mpr
  intro name new
  rw [mem_newNames, List.mem_append, mem_newNames] at new
  tauto

end Names

theorem Rejects.not_made {name : String} {failure : Failure} (rejects : Rejects name failure) :
    Bundled.made? name = none := by
  cases rejects with
  | unknown none => rw [Bundled.made?, Bundled.find?_eq_none.mpr none]
  | refuses bundled named refused =>
    subst named
    rw [Bundled.made?, Bundled.find?_of_mem bundled]
    simp only [refused]

namespace Session
variable {s : Session} {source name : String} {names : List String} {slot : Slot Bundled}

/-! ## Sessions with more plugins -/

theorem foldl_addExtractors_engine (handles : List Handle) (d : Driver ι) (g : Engine ι) :
    handles.foldl (fun d p => d.addExtractors p source) { d with engine := g } =
      { handles.foldl (fun d p => d.addExtractors p source) d with engine := g } := by
  induction handles generalizing d with
  | nil => rfl
  | cons p rest ih =>
    have apart : { d with engine := g }.addExtractors p source =
        { d.addExtractors p source with engine := g } := by
      unfold Driver.addExtractors
      split
      · dsimp only
        split <;> rfl
      · rfl
    rw [List.foldl_cons, List.foldl_cons, apart, ih]

theorem grown_grown (s : Session) (source : String) (handles more : List Handle)
    (slots slots' : List (Slot Bundled)) (names names' : List String) :
    (s.grown source handles slots names).grown source more slots' names' =
      s.grown source (handles ++ more) (slots ++ slots') (names ++ names') := by
  simp [grown, foldl_addExtractors_engine]

theorem extended_nil (s : Session) (source : String) : s.extended source [] = s := by
  simp [extended, grown, handles]

theorem extended_cons (made : Bundled.made? name = some slot) (rest : List String) :
    s.extended source (name :: rest) = (s.extended source [name]).extended source rest := by
  have grown : (s.extended source [name]).host.slots.length = s.host.slots.length + 1 := by
    simp [extended, grown, made]
  have handles : s.handles (name :: rest) = s.handles [name] ++ (s.extended source [name]).handles rest := by
    simp [handles, grown, made, Nat.add_assoc, Nat.add_comm 1]
  have slots : (name :: rest).filterMap Bundled.made? =
      [name].filterMap Bundled.made? ++ rest.filterMap Bundled.made? := List.filterMap_append (l := [name])
  rw [extended, handles, slots]
  exact (grown_grown s source _ _ _ _ [name] rest).symm

theorem plugins_extended (s : Session) (source : String) (names : List String) :
    (s.extended source names).driver.engine.registry.plugins =
      s.driver.engine.registry.plugins ++ s.handles names := by
  rw [extended, grown, foldl_addExtractors_engine]

theorem names_extended (all : ∀ name ∈ names, (Bundled.made? name).isSome = true) (s : Session)
    (source : String) : (s.extended source names).driver.engine.registry.names =
      s.driver.engine.registry.names ++ names := by
  induction names generalizing s with
  | nil => rw [extended_nil, List.append_nil]
  | cons name rest ih =>
    obtain ⟨first, all⟩ := List.forall_mem_cons.mp all
    obtain ⟨slot, made⟩ := Option.isSome_iff_exists.mp first
    have named := Bundled.made?_eq_some made
    have joined : (s.extended source [name]).driver.engine.registry.names =
        s.driver.engine.registry.names ++ [name] := by
      rw [Registry.names, plugins_extended, List.map_append]
      simp [handles, made, Registry.names, Handle.name, named]
    rw [extended_cons made, ih all, joined, List.append_assoc]
    rfl

/-! ## One name after another -/

/-- What a new name comes to. -/
theorem addExtractor_new (mirrors : ∀ name, name ∈ s.registered ↔ name ∈ s.driver.engine.registry.names)
    (new : name ∉ s.registered) (source : String) :
    (Bundled.made? name).isSome = true ∧
        s.addExtractor source name = (.ok (), s.extended source [name]) ∨
      ∃ failure, Rejects name failure ∧ s.addExtractor source name = (.error failure, s.trying name) := by
  have unknown : s.registered.contains name = false := by simpa using new
  unfold addExtractor register
  rw [unknown]
  cases found : Bundled.find? name with
  | none =>
    refine .inr ⟨_, .unknown (Bundled.find?_eq_none.mp found), ?_⟩
    simp [trying, found]
  | some d =>
    obtain ⟨bundled, rfl⟩ := Bundled.find?_eq_some found
    have eligible : d.Eligible s.driver.engine.registry.plugins :=
      ⟨Bundled.capable_of_mem bundled, mt (mirrors _).mpr new⟩
    have answer := Registry.register_of_eligible eligible s.host ""
    obtain ⟨state, made⟩ | ⟨message, refused⟩ := Bundled.init_empty bundled
    · left
      have slot : Bundled.made? d.manifest.name = some ⟨d.manifest, state⟩ := by
        simp [Bundled.made?, found, made]
      rw [made] at answer
      simp [slot, Driver.register, Engine.register, answer, Outcome.mapReason, extended, grown, handles,
        Host.record, Handle.name]
    · right
      rw [refused] at answer
      refine ⟨_, .refuses bundled rfl refused, ?_⟩
      simp [trying, found, Driver.register, Engine.register, answer, Outcome.mapReason]

theorem Comes.cons {result : Except Failure Unit × Session} (made : Bundled.made? name = some slot)
    (rest : Comes (s.extended source [name]) source names result) : Comes s source (name :: names) result := by
  have first : (Bundled.made? name).isSome = true := by rw [made]; rfl
  cases rest with
  | all all =>
    rw [← extended_cons made]
    exact .all (List.forall_mem_cons.mpr ⟨first, all⟩)
  | @stopped before refused after failure all rejects =>
    rw [← extended_cons made]
    exact .stopped (List.forall_mem_cons.mpr ⟨first, all⟩) rejects

theorem addExtractors_comes
    (mirrors : ∀ name, name ∈ s.registered ↔ name ∈ s.driver.engine.registry.names) (source : String)
    (names : List String) : Comes s source (newNames s.registered names) (s.addExtractors source names) := by
  induction names generalizing s with
  | nil =>
    have none : newNames s.registered [] = [] := rfl
    have same : s.addExtractors source [] = (.ok (), s.extended source []) := by
      rw [extended_nil]
      rfl
    rw [none, same]
    exact .all (fun _ inside => absurd inside List.not_mem_nil)
  | cons name rest ih =>
    rw [addExtractors]
    by_cases known : name ∈ s.registered
    · have skipped : s.addExtractor source name = (.ok (), s) := by
        simp [addExtractor, known]
      rw [newNames_cons_known known, skipped]
      exact ih mirrors
    · rw [newNames_cons_new known]
      obtain ⟨accepted, added⟩ | ⟨failure, rejects, failed⟩ := addExtractor_new mirrors known source
      · obtain ⟨slot, made⟩ := Option.isSome_iff_exists.mp accepted
        have names := names_extended (List.forall_mem_singleton.mpr accepted) s source
        rw [added]
        refine .cons made (ih ?_)
        intro other
        rw [names, List.mem_append, ← mirrors other]
        exact List.mem_append
      · rw [failed]
        have stopped : Comes s source ([] ++ name :: newNames (s.registered ++ [name]) rest) _ :=
          .stopped (fun _ inside => absurd inside List.not_mem_nil) rejects
        rw [extended_nil] at stopped
        exact stopped

theorem register_registered {s' : Session} {config : String} {p : Handle}
    (done : s.register name config = (.ok p, s')) : s'.registered = s.registered ++ [name] := by
  unfold register at done
  split at done
  · cases done
  · split at done <;> cases done
    rfl

theorem addExtractor_registered {s' : Session} (new : name ∉ s.registered)
    (added : s.addExtractor source name = (.ok (), s')) : s'.registered = s.registered ++ [name] := by
  have unknown : s.registered.contains name = false := by simpa using new
  unfold addExtractor at added
  rw [unknown, if_neg Bool.false_ne_true] at added
  split at added
  · cases added
  · rename_i done
    cases added
    have kept := register_registered done
    exact kept

/-- Only the new names of a list matter, each where it is first given. -/
theorem addExtractors_newNames (s : Session) (source : String) (names : List String) :
    s.addExtractors source names = s.addExtractors source (newNames s.registered names) := by
  induction names generalizing s with
  | nil => rfl
  | cons name rest ih =>
    by_cases known : name ∈ s.registered
    · have skipped : s.addExtractor source name = (.ok (), s) := by
        simp [addExtractor, known]
      rw [newNames_cons_known known, addExtractors, skipped]
      exact ih s
    · rw [newNames_cons_new known, addExtractors, addExtractors]
      cases step : s.addExtractor source name with
      | mk answer s' =>
        cases answer with
        | error failure => rfl
        | ok =>
          rw [← addExtractor_registered known step]
          exact ih s'

section Results
variable {result : Except Failure Unit × Session}

theorem Comes.mirrors (comes : Comes s source names result)
    (matching : s.registered = s.driver.engine.registry.names) :
    result.2.registered = result.2.driver.engine.registry.names := by
  have extended : ∀ names, (∀ name ∈ names, (Bundled.made? name).isSome = true) →
      (s.extended source names).registered = (s.extended source names).driver.engine.registry.names := by
    intro names all
    rw [names_extended all, ← matching]
    rfl
  cases comes with
  | all all => exact extended _ all
  | stopped all rejects =>
    have same := extended _ all
    unfold trying
    split <;> exact same

theorem Comes.failure (comes : Comes s source names result) {failure : Failure}
    (failed : result.1 = .error failure) : ∃ name ∈ names, Rejects name failure := by
  cases comes with
  | all all => cases failed
  | stopped all rejects =>
    cases failed
    exact ⟨_, List.mem_append_right _ List.mem_cons_self, rejects⟩

theorem Comes.fails_iff (comes : Comes s source names result) :
    (∃ failure, result.1 = .error failure) ↔ ∃ name ∈ names, ∃ failure, Rejects name failure := by
  constructor
  · rintro ⟨failure, failed⟩
    obtain ⟨name, inside, rejects⟩ := comes.failure failed
    exact ⟨name, inside, failure, rejects⟩
  · rintro ⟨name, inside, failure, rejects⟩
    cases comes with
    | all all =>
      have made := all name inside
      rw [rejects.not_made] at made
      cases made
    | stopped => exact ⟨_, rfl⟩

theorem Comes.registered (comes : Comes s source names result) (done : result.1 = .ok ()) :
    result.2.registered = s.registered ++ names := by
  cases comes with
  | all => rfl
  | stopped => cases done

end Results

/-- Each new name of a list is registered once with an empty configuration, where it is first given, up to
the first that is rejected; the names that are kept stay those of the driver's plugins, so none is ever
registered twice, and repeats in the list or of it make no difference. -/
theorem extractors_registered_once (matching : s.registered = s.driver.engine.registry.names)
    (source : String) (names : List String) :
    let new := newNames s.registered names
    let result := s.addExtractors source names
    (new.Nodup ∧ ∀ name, name ∈ new ↔ name ∈ names ∧ name ∉ s.registered) ∧
      Comes s source new result ∧
      result.2.registered = result.2.driver.engine.registry.names ∧
      (∀ name, result.1 ≠ .error (.driver (.initialization (.duplicate name)))) ∧
      ((∃ failure, result.1 = .error failure) ↔ ∃ name ∈ new, ∃ failure, Rejects name failure) ∧
      s.addExtractors source names.eraseDups = result ∧
      (∀ before name after, names = before ++ name :: after → name ∈ s.registered ∨ name ∈ before →
        s.addExtractors source (before ++ after) = result) ∧
      (result.1 = .ok () → result.2.addExtractors source names = result) := by
  intro new result
  have mirrors : ∀ name, name ∈ s.registered ↔ name ∈ s.driver.engine.registry.names := by
    intro name
    rw [matching]
  have comes : Comes s source new result := addExtractors_comes mirrors source names
  refine ⟨⟨Snapshot.nodup_eraseDups _, fun _ => mem_newNames⟩, comes, comes.mirrors matching, ?_,
    comes.fails_iff, ?_, ?_, ?_⟩
  · intro name failed
    obtain ⟨_, _, rejects⟩ := comes.failure failed
    cases rejects
  · rw [addExtractors_newNames, newNames_eraseDups]
    exact (addExtractors_newNames s source names).symm
  · intro before name after split seen
    rw [addExtractors_newNames, ← newNames_repeat seen, ← split]
    exact (addExtractors_newNames s source names).symm
  · intro done
    rw [addExtractors_newNames, comes.registered done, newNames_again]
    exact Prod.ext done.symm rfl

def counting : Session :=
  let driver : Driver BundledSource :=
    ⟨1, Engine.fresh none, Extractors.fresh, Collector.fresh ⟨true, true⟩, .idle⟩
  ((⟨driver, Host.fresh .bare, []⟩ : Session).register "countdown" "").2

/-- In a list with repeats there is a plugin that does not accept an empty configuration. -/
theorem dummy_stops_list : counting.registered = counting.driver.engine.registry.names ∧
    let result := counting.addExtractors "countdown" ["payload", "countdown", "payload", "dummy", "tally"]
    result.2.registered = ["countdown", "payload"] ∧
      result.2.driver.engine.registry.names = ["countdown", "payload"] ∧
      ∃ failure, result.1 = .error failure ∧ Rejects "dummy" failure := by
  have matching : counting.registered = counting.driver.engine.registry.names := by decide +kernel
  obtain ⟨_, _, kept, _⟩ := extractors_registered_once matching "countdown"
    ["payload", "countdown", "payload", "dummy", "tally"]
  have registered : (counting.addExtractors "countdown"
      ["payload", "countdown", "payload", "dummy", "tally"]).2.registered = ["countdown", "payload"] := by
    decide +kernel
  have refuses : Rejects "dummy" (.driver (.initialization (.refused "dummy" _))) :=
    .refuses (show Bundled.strict ∈ Bundled.all by simp [Bundled.all]) rfl rfl
  exact ⟨matching, registered, kept.symm.trans registered, _, by decide +kernel, refuses⟩

end Session

end Dump

end EventProbe
