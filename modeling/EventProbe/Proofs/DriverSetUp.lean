import EventProbe.Plugins.Scripted
import EventProbe.Proofs.OpenedSources

/-! Setting up a driver. A driver that has done nothing yet registers plugins, adds the fields of one of
them and opens a source, and each of these calls succeeds if the plugins accept it. -/
namespace EventProbe

/-! ## The fields of one plugin -/

section Fields
variable {added before after : List Handle} {q : Handle} {d : Driver ι} {field : FieldName} {id : Nat}
  {info : FieldInfo}

/-- If only one plugin was added, however often, it contributes all the fields. -/
theorem contributors_sole (some : q ∈ added) (sole : ∀ r ∈ added, r = q) : contributors added = [q] := by
  have positive := List.length_pos_of_mem some
  have copies := List.eq_replicate_of_mem sole
  clear some sole
  generalize added.length = count at copies positive
  subst copies
  induction count with
  | zero => omega
  | succ count ih =>
    rw [List.replicate_succ', contributors_concat]
    cases count with
    | zero => rfl
    | succ count =>
      have known : q.name ∈ (List.replicate (count + 1) q).map Handle.name := by simp
      rw [if_pos known]
      exact ih (Nat.succ_pos count)

/-- A field is served by a plugin if none of those that contribute fields before it accepts this one. -/
theorem Driver.Offers.resolve_first (offers : d.Offers added)
    (split : contributors added = before ++ q :: after) (refused : ∀ r ∈ before, ¬ r.Accepts field)
    (parsed : FieldName.parse name = .ok field) (foreign : GenericField.ofPath field.path = none)
    (found : q.manifest.findField field.path = .some (id, info))
    (accepts : info.argument.accepts field = true) :
    (d.extractors.resolve name).1 = .ok (.plugin field q id info) := by
  obtain ⟨entry, named, first⟩ := Manifest.findField_eq_some_iff.mp found
  exact offers.first name field before q after id info parsed (GenericField.not_fits foreign) split
    refused ⟨entry, named, first, accepts⟩

theorem Driver.Offers.resolve_sole (offers : d.Offers added) (some : q ∈ added)
    (sole : ∀ r ∈ added, r = q) (parsed : FieldName.parse name = .ok field)
    (foreign : GenericField.ofPath field.path = none)
    (found : q.manifest.findField field.path = .some (id, info))
    (accepts : info.argument.accepts field = true) :
    (d.extractors.resolve name).1 = .ok (.plugin field q id info) := by
  have split : contributors added = [] ++ q :: [] := contributors_sole some sole
  exact offers.resolve_first split (by simp) parsed foreign found accepts

end Fields

/-! ## Calls that succeed -/

section Logs
variable {i : Nat} {log : List (Exchange π)}

theorem opensBy_eq_nil (unlogged : ∀ x ∈ log, x.driver ≠ i) : opensBy i log = [] := by
  apply List.filter_eq_nil_iff.mpr
  intro x logged
  simp [unlogged x logged]

theorem opensBy_closed {c : DriverCall π} {reply : Reply} {delivered : Option Event}
    (closed : reply.opens = false) : opensBy i (⟨i, c, reply, delivered⟩ :: log) = opensBy i log := by
  simp [opensBy, closed]

theorem addedBy_eq_nil (unlogged : ∀ x ∈ log, x.driver ≠ i) : addedBy i log = [] := by
  apply List.filterMap_eq_nil_iff.mpr
  intro x logged
  rw [if_neg (unlogged x (List.mem_reverse.mp logged))]

theorem addedBy_own (i : Nat) (c : DriverCall π) (reply : Reply) (delivered : Option Event) :
    addedBy i (⟨i, c, reply, delivered⟩ :: log) = addedBy i log ++ c.adds.toList := by
  simp only [addedBy, List.reverse_cons, List.filterMap_append]
  cases adds : c.adds <;> simp [adds]

end Logs

section Calls
variable [Plugin π ι] {p : Process π ι} {log rest : List (Exchange π)} {d : Driver ι} {i : Nat}
  {plugin : Descriptor π} {config : String} {r : Handle} {s : π}

theorem Driver.register_of_new (capable : plugin.manifest.capabilities.isEmpty = false)
    (free : plugin.manifest.name ∉ d.engine.registry.names) (made : plugin.init config = .ok s)
    (h : Host π) :
    (d.perform h (.register plugin config)).1 = .registered (.ok ⟨h.slots.length, plugin.manifest⟩) ∧
      (d.perform h (.register plugin config)).2.2.slots.length = h.slots.length + 1 := by
  have absent : (d.engine.registry.find? plugin.manifest.name).isSome = false := by
    rw [← Bool.not_eq_true, Registry.find?, List.find?_isSome]
    rintro ⟨q, known, same⟩
    exact free (List.mem_map.mpr ⟨q, known, eq_of_beq same⟩)
  simp [perform, register, Engine.register, Registry.register, Host.record, capable, absent, made,
    Outcome.mapReason]

namespace Process

/-- What a logged registration tells of the plugin. -/
theorem Run.registered_by (run : Run p log)
    (logged : ⟨i, .register plugin config, .registered (.ok r), none⟩ ∈ log) :
    r.manifest = plugin.manifest ∧ ∃ s, plugin.init config = .ok s := by
  obtain ⟨newer, older, split⟩ := List.append_of_mem logged
  obtain ⟨q, d, _, _, answer, _⟩ := run.exchange split
  obtain ⟨s, manifest, made, _⟩ := Driver.register_made answer.symm
  exact ⟨manifest, s, made⟩

theorem play_cons (there : p.driver? i = some d) (c : DriverCall π) (rest : List (Nat × DriverCall π)) :
    p.play log ((i, c) :: rest) = (p.update i (d.perform p.host c).2.1 (d.perform p.host c).2.2).play
      (⟨i, c, (d.perform p.host c).1, d.delivered p.host c⟩ :: log) rest := by
  rw [play, there]

/-- Calls drop no driver. -/
theorem play_driver (alive : ∃ d, p.driver? i = some d) (calls : List (Nat × DriverCall π)) :
    ∃ d, (p.play log calls).1.driver? i = some d := by
  induction calls generalizing p log with
  | nil => exact alive
  | cons call rest ih =>
    obtain ⟨j, c⟩ := call
    unfold play
    split
    · exact ih alive
    · rename_i e there
      apply ih
      by_cases same : i = j
      · subst same
        exact ⟨_, driver?_update_self there⟩
      · rw [driver?_update_ne same]
        exact alive

/-- A driver registers a plugin under a name of its own. -/
theorem Run.play_register (run : Run p log) (there : p.driver? i = some d)
    (capable : plugin.manifest.capabilities.isEmpty = false)
    (free : plugin.manifest.name ∉ (registeredBy i log).map Handle.name)
    (made : plugin.init config = .ok s) (known : r = ⟨p.host.slots.length, plugin.manifest⟩) :
    ∃ p' d', Run p' (⟨i, .register plugin config, .registered (.ok r), none⟩ :: log) ∧
      p'.driver? i = some d' ∧ p'.host.slots.length = p.host.slots.length + 1 ∧
      ∀ rest, p.play log ((i, .register plugin config) :: rest) =
        p'.play (⟨i, .register plugin config, .registered (.ok r), none⟩ :: log) rest := by
  rw [← run.plugins_eq there] at free
  obtain ⟨answer, grown⟩ := Driver.register_of_new capable free made p.host
  have after := run.call (.register plugin config) there
  have played : ∀ rest, p.play log ((i, .register plugin config) :: rest) = _ :=
    play_cons there (.register plugin config)
  simp only [answer, ← known] at after played
  exact ⟨_, _, after, driver?_update_self there, grown, played⟩

/-- Among the calls that follow, a driver registers a plugin under a name of its own. -/
theorem Trail.follow_register {stages : List (Stage π ι)} {k : Nat} (trail : Trail p stages)
    (there : p.driver? i = some d) (capable : plugin.manifest.capabilities.isEmpty = false)
    (free : plugin.manifest.name ∉ (registeredBy i (stages.map Stage.exchange)).map Handle.name)
    (made : plugin.init config = .ok s) (known : r = ⟨p.host.slots.length, plugin.manifest⟩)
    (rest : List (Nat × DriverCall π))
    (grown : (p.follow stages ((i, .register plugin config) :: rest)).2.length =
      k + (stages.length + 1)) :
    ∃ registering : Stage π ι,
      registering.exchange = ⟨i, .register plugin config, .registered (.ok r), none⟩ ∧
      (p.follow stages ((i, .register plugin config) :: rest)).2 =
        (p.follow stages ((i, .register plugin config) :: rest)).2.take k ++ registering :: stages := by
  rw [← trail.run.plugins_eq there] at free
  obtain ⟨answer, _⟩ := Driver.register_of_new capable free made p.host
  refine ⟨⟨i, d, p.host, .register plugin config⟩, ?_, ?_⟩
  · rw [known, ← answer]
    rfl
  · rw [follow_cons there] at grown ⊢
    obtain ⟨newer, split⟩ := follow_extends _ (⟨i, d, p.host, .register plugin config⟩ :: stages) rest
    rw [split, List.length_append, List.length_cons] at grown
    rw [split, List.take_left' (Nat.add_right_cancel grown)]

theorem Run.play_addExtractors (run : Run p log) (there : p.driver? i = some d) (r : Handle)
    (source : String) : ∃ p' d', Run p' (⟨i, .addExtractors r source, .done, none⟩ :: log) ∧
      p'.driver? i = some d' ∧ ∀ rest, p.play log ((i, .addExtractors r source) :: rest) =
        p'.play (⟨i, .addExtractors r source, .done, none⟩ :: log) rest :=
  ⟨_, _, run.call (.addExtractors r source) there, driver?_update_self there, play_cons there _⟩

/-- A driver that captures nothing yet opens a source of a still plugin that it has registered. -/
theorem Run.play_openPlugin (run : Run p log) (there : p.driver? i = some d)
    (made : RegisteredAs i log r s) (still : Plugin.Still s)
    (silent : r.manifest.can .eventParsing = false) (unopened : opensBy i log = []) {name : String}
    (named : r.name = name) (generates : r.manifest.generates = some source) {params : String} {state : ι}
    (opens : (Plugin.openSource s params).1 = .ok state) (platform : Bool) :
    (p.play log [(i, .openPlugin name params platform)]).2 =
      ⟨i, .openPlugin name params platform, .opened (.ok ()), none⟩ :: log := by
  subst named
  have idle : d.state = .idle := by
    have count := run.opened there
    cases state : d.state with
    | idle => rfl
    | capturing => simp [Driver.Opened, unopened, state] at count
  have closed := (run.matched there).closed idle
  have keeps := run.rests there made still silent (by simp [closed])
  have distinct := run.names_distinct there
  have known := made.registered
  rw [← run.plugins_eq there] at distinct known
  have opened : (d.engine.openPlugin p.host r.name params platform).1 = .ok () := by
    rw [Engine.openPlugin_ok_iff closed]
    refine ⟨r, source, state, Registry.find?_of_mem distinct known, generates, ?_⟩
    rw [keeps.openSource, opens]
  have answer : (d.perform p.host (.openPlugin r.name params platform)).1 = .opened (.ok ()) := by
    obtain ⟨_, _, same, _⟩ | ⟨_, _, same, _⟩ | ⟨_, _, _, same⟩ :=
      Driver.openPlugin_of_idle idle p.host r.name params platform
    · simp [same] at opened
    · simp [same] at opened
    · simp only [Driver.perform, same]
  rw [play_cons there, answer]
  rfl

end Process

end Calls

/-! ## Drivers that are set up -/

/-- A driver has registered the plugin of its source and perhaps one that reads the events, and no other.
It has added the fields of this one only, and has opened the source before the newer calls. -/
structure Feeding (i : Nat) (plugin : Descriptor π) (config : String) (owner reader : Handle)
    (log newer : List (Exchange π)) : Prop where
  opened : ∃ params platform older, log = newer ++
      ⟨i, .openPlugin plugin.manifest.name params platform, .opened (.ok ()), none⟩ :: older ∧
    ⟨i, .register plugin config, .registered (.ok owner), none⟩ ∈ older
  only : ∀ r ∈ registeredBy i log, r = owner ∨ r = reader
  added : reader ∈ addedBy i log
  sole : ∀ r ∈ addedBy i log, r = reader

section Feeding
variable {i : Nat} {plugin : Descriptor π} {config : String} {owner reader : Handle}
  {log newer : List (Exchange π)} {y : Exchange π}

theorem Feeding.registered (feeding : Feeding i plugin config owner reader log newer) :
    ⟨i, .register plugin config, .registered (.ok owner), none⟩ ∈ log := by
  obtain ⟨params, platform, older, rfl, logged⟩ := feeding.opened
  exact List.mem_append_right _ (List.mem_cons_of_mem _ logged)

/-- Other calls change nothing of this, unless the driver registers or adds more. -/
theorem Feeding.call (feeding : Feeding i plugin config owner reader log newer)
    (registers : y.reply.registered? = none) (adds : y.call.adds = none) :
    Feeding i plugin config owner reader (y :: log) (y :: newer) := by
  obtain ⟨params, platform, older, split, logged⟩ := feeding.opened
  have registered : registeredBy i (y :: log) = registeredBy i log := by
    simp [registeredBy, registers]
  have added : addedBy i (y :: log) = addedBy i log := by
    simp [addedBy, adds]
  refine ⟨⟨params, platform, older, by rw [split, List.cons_append], logged⟩, ?_, ?_, ?_⟩
  · rw [registered]
    exact feeding.only
  · rw [added]
    exact feeding.added
  · rw [added]
    exact feeding.sole

variable [Plugin π ι] {p : Process π ι} {d : Driver ι} {s : π} {source : String}

namespace Process

/-- A driver that is set up can take a step. -/
theorem Run.feeding_step (run : Run p log) (there : p.driver? i = some d)
    (feeding : Feeding i plugin config owner reader log newer) : ∃ p' d' x, Run p' (x :: log) ∧
      p'.driver? i = some d' ∧ Feeding i plugin config owner reader (x :: log) (x :: newer) ∧
      stepsBy i (x :: newer) = stepsBy i newer + 1 :=
  ⟨_, _, _, run.call .next there, driver?_update_self there, feeding.call rfl rfl,
    stepsBy_own i .next _ _⟩

/-- What holds when the source is opened and is kept by steps, one more each time, and by other calls,
holds by the number of steps since then. -/
theorem Run.feeds {inv : Nat → Engine ι → Host π → Prop} (run : Run p log)
    (there : p.driver? i = some d) (feeding : Feeding i plugin config owner reader log newer)
    (made : plugin.init config = .ok s) (still : Plugin.Still s)
    (quiet : ∀ r ∈ registeredBy i log, r.manifest.can .eventParsing = false)
    (generates : plugin.manifest.generates = some source) (persists : Engine.Persists inv owner)
    (start : ∀ (g : Engine ι) h params state detected, h.Keeps owner s →
      (Plugin.openSource s params).1 = .ok state →
      inv 0 (g.start (.plugin ⟨owner, source, state, []⟩) detected) h) :
    d.state = .capturing ∧ inv (stepsBy i newer) d.engine p.host := by
  obtain ⟨params, platform, older, rfl, logged⟩ := feeding.opened
  refine run.since_open persists ?_ there rfl rfl quiet
  intro p d run there answer
  have made' : RegisteredAs i older owner s := ⟨plugin, config, made, logged⟩
  have manifest := (run.registered_by logged).1
  have silent := quiet owner (registeredBy_grows i newer (_ :: older)
    (registeredBy_grows i [_] older made'.registered))
  obtain ⟨source', state, detected, h', generates', opened, keeps, started⟩ :=
    run.started there made' still silent (congrArg Manifest.name manifest) answer
  rw [manifest, generates] at generates'
  cases generates'
  rw [run.plugins_eq there, started]
  exact ⟨made'.registered, start d.engine h' params state detected keeps opened⟩

end Process

end Feeding

/-- A process with one driver, for bundled plugins and others. -/
def Process.oneDriver : Process (Bundled ⊕ Scripted) (BundledSource ⊕ Scripted.Stream) :=
  Process.create ⟨Host.fresh .bare, []⟩ .default

end EventProbe
