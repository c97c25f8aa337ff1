import EventProbe.Plugins.Scripted
import EventProbe.Proofs.FieldTables
import EventProbe.Proofs.LocatedText
import EventProbe.Proofs.Registration
import EventProbe.Proofs.SteadyPlugins

/-! The two passes over an event, of the fields that every event has and of those that bundled plugins
extract. The pass that reads byte ranges yields the values of the other pass, and where a value has a
range the bytes there write it. -/
namespace EventProbe

/-! ## Bundled plugins -/

def Bundled.manifest : Bundled → Manifest
  | .inl _ => Bundled.countdown.manifest
  | .inr (.inl _) => Bundled.payload.manifest
  | .inr (.inr (.inl _)) => Bundled.strict.manifest
  | .inr (.inr (.inr (.inl _))) => Bundled.testSource.manifest
  | .inr (.inr (.inr (.inr _))) => Bundled.tally.manifest

def Outcome.values (found : Outcome String (List Extracted)) : Outcome String (List FieldValue) :=
  found.map (·.map Extracted.value)

section Answers
variable {r : Request} {values : List Extracted} {payload : String}

/-- All of the event data, as the text that it is. -/
theorem faithful_whole {path : String} (named : path ∈ textPaths)
    (small : (Utf8.encode payload).length < halfWordLimit) :
    (Extracted.located (.text payload) 0 (Utf8.encode payload).length).Faithful path
      (Utf8.encode payload) := by
  have quotes := quotes_text named payload
  rw [← String.ofList_toList (s := payload)] at quotes
  have faithful := (stands_whole payload.toList).faithful small quotes
  rwa [String.ofList_toList, ← Utf8.length_encode] at faithful

theorem leadingNumber_faithful (small : (Utf8.encode payload).length < halfWordLimit)
    (found : Payload.leadingNumber payload = .ok values) :
    ∀ v ∈ values, v.Faithful "payload.remaining" (Utf8.encode payload) := by
  unfold Payload.leadingNumber at found
  dsimp only at found
  split at found
  · cases found
  · rename_i some
    split at found
    · rename_i n read
      cases found
      obtain ⟨width, writes⟩ := writes_digits_read List.all_takeWhile (by simpa using some) read
      rw [List.forall_mem_singleton, ← width]
      exact (stands_takeWhile _ payload.toList).faithful small (.remaining writes)
    · cases found

theorem nthWord_faithful {index start : Nat} {word : List Char}
    (small : (Utf8.encode payload).length < halfWordLimit)
    (place : Payload.nthWord (payload.toList.splitOn ' ') index 0 = some (start, word)) :
    (Extracted.located (.text (String.ofList word)) start (Utf8.width word)).Faithful "payload.word"
      (Utf8.encode payload) := by
  obtain ⟨before, after, split, rfl⟩ := nthWord_eq_some place
  rw [Nat.zero_add]
  exact (tokens_iff.mpr split).stands.faithful small (quotes_text (by decide) _)

theorem payload_values_faithful (data : r.event.data = Utf8.encode payload)
    (small : r.event.data.length < halfWordLimit) (found : Payload.values r payload = .ok values) :
    ∀ v ∈ values, v.Faithful r.field.name r.event.data := by
  unfold Payload.values at found
  rw [data] at small found ⊢
  split at found
  · cases found
    exact List.forall_mem_singleton.mpr (faithful_plain _ _ _)
  · rename_i name
    cases found
    rw [List.forall_mem_singleton, name]
    split
    · exact faithful_whole (by decide) small
    · exact faithful_plain _ _ _
  · rename_i name
    dsimp only at found
    split at found
    · cases found
    · cases found
      intro v member
      cases List.eq_of_mem_replicate member
      rw [name]
      exact faithful_whole (by decide) small
  · rename_i name
    rw [name]
    exact leadingNumber_faithful small found
  · rename_i name
    rw [name]
    split at found
    · rename_i start word place
      cases found
      exact List.forall_mem_singleton.mpr (nthWord_faithful small place)
    · cases found
      exact List.forall_mem_nil _
  · cases found

theorem tick_faithful {data : List UInt8} (small : data.length < halfWordLimit)
    (found : TestSource.tick data = .ok values) : ∀ v ∈ values, v.Faithful "test.tick" data := by
  unfold TestSource.tick at found
  split at found
  · cases found
  · rename_i text decoded
    obtain rfl := Utf8.decode_eq_ok_iff.mp decoded
    split at found
    · cases found
      exact List.forall_mem_nil _
    · rename_i digits labelled
      have split := List.isPrefixOf?_eq_some_iff_append_eq.mp labelled
      have stands : Stands text.toList digits TestSource.label.length := by
        rw [← split]
        exact (stands_whole digits).shift TestSource.label
      split at found
      · rename_i n read
        cases found
        rw [List.forall_mem_singleton]
        exact stands.faithful small (.tick (writes_read read))
      · cases found

theorem bundled_faithful {s : Bundled} (small : r.event.data.length < halfWordLimit)
    (declared : r.field ∈ s.manifest.fields)
    (found : (Plugin.extract s r).1 = .ok values) :
    ∀ v ∈ values, v.Faithful r.field.name r.event.data := by
  rcases s with s | s | s | s | s
  · cases found
    exact List.forall_mem_nil _
  · simp only [Plugin.extract] at found
    split at found
    · rename_i payload decoded
      exact payload_values_faithful (Utf8.decode_eq_ok_iff.mp decoded) small found
    · cases found
  · cases found
    exact List.forall_mem_nil _
  · have field : r.field ∈ TestSource.descriptor.manifest.fields := declared
    rw [List.mem_singleton.mp field]
    exact tick_faithful small found
  · cases found
    exact List.forall_mem_singleton.mpr (faithful_plain _ _ _)

/-- The answers of bundled plugins with and without ranges have the same values. -/
theorem bundled_values (s : Bundled) (id : Nat) (info : FieldInfo) (field : FieldName) (e : Event) :
    (Plugin.extract s (Request.make id info field e true)).1.values =
      (Plugin.extract s (Request.make id info field e false)).1.values := by
  rcases s with s | s | s | s | s
  · rfl
  · simp only [Plugin.extract, Request.make]
    split
    · simp only [Payload.values]
      split <;> rfl
    · rfl
  · rfl
  · rfl
  · rfl

end Answers

/-! ## Passes -/

/-- A reference leads to a bundled plugin in this state. -/
structure Host.Runs (h : Host (Bundled ⊕ ρ)) (p : Handle) (s : Bundled) : Prop where
  manifest : p.manifest = s.manifest
  slot : ∃ slot, h.slots[p.slot]? = some slot ∧ slot.state = .inl s

/-- The extractor of a field that every event has, or that a bundled plugin extracts. -/
inductive Extractor.BuiltIn (h : Host (Bundled ⊕ ρ)) (field : FieldName) : Extractor → Prop where
  | generic : Factory.generic.build field = some x → BuiltIn h field x
  | plugin : h.Runs p s → Factory.ofPlugin p = some f → f.build field = some x → BuiltIn h field x

section Passes
variable [Plugin ρ κ] {h : Host (Bundled ⊕ ρ)} {field : FieldName} {x : Extractor} {e : Event}
  {p : Handle} {s : Bundled} {values : List Extracted} {offsets : Bool}

theorem Host.Runs.extract (runs : h.Runs p s) (r : Request) :
    (h.extract p r).1 = (Plugin.extract s r).1 ∧ (h.extract p r).2.Runs p s := by
  obtain ⟨manifest, slot, found, state⟩ := runs
  have bound := (List.getElem?_eq_some_iff.mp found).1
  have answer : Plugin.extract (Sum.inl s : Bundled ⊕ ρ) r = ((Plugin.extract s r).1, .inl s) := by
    change ((Plugin.extract s r).1, (Sum.inl (Plugin.extract s r).2 : Bundled ⊕ ρ)) = _
    rw [Plugin.extract_bundled]
  have called : h.extract p r = ((Plugin.extract s r).1,
      { h.record p.slot slot.manifest.name (.extract r) with
        slots := h.slots.set p.slot ⟨slot.manifest, .inl s⟩ }) := by
    simp only [Host.extract, Host.call, found, state, answer, Host.record]
  rw [called]
  exact ⟨rfl, manifest, _, List.getElem?_set_self bound, rfl⟩

theorem findArgument_faithful {data : List UInt8} {key : String} {start : Nat} {value : List Char}
    (small : data.length < halfWordLimit) (place : findArgument data key = some (start, value)) :
    (Extracted.located (.text (String.ofList value)) start (Utf8.width value)).Faithful "evt.arg"
      data := by
  obtain ⟨text, before, after, rfl, assignment, rfl⟩ := findArgument_eq_some_iff.mp place
  exact assignment.stands.faithful small (quotes_text (by decide) _)

theorem extractGeneric_faithful {kind : GenericField} (small : e.data.length < halfWordLimit)
    (named : kind.path = field.path)
    (found : (Extractor.extractGeneric h field kind e).1 = .ok values) :
    ∀ v ∈ values, v.Faithful field.path e.data := by
  have one : ∀ value, ∀ v ∈ [Extracted.plain value], v.Faithful field.path e.data :=
    fun _ => List.forall_mem_singleton.mpr (faithful_plain _ _ _)
  unfold Extractor.extractGeneric at found
  rw [← named] at one ⊢
  cases kind with
  | pluginInfo =>
    dsimp only at found
    split at found
    · rename_i owner _
      cases text : (h.render owner e).1 with
      | ok text' =>
        rw [text] at found
        cases found
        exact one _
      | failed message => rw [text] at found; cases found
      | panicked panic => rw [text] at found; cases found
    · cases found
      exact one _
  | data =>
    cases found
    rw [List.forall_mem_singleton]
    refine faithful_located small (by omega) ?_
    have quotes : Quotes GenericField.data.path e.data _ := .text (by decide)
    rwa [List.drop_zero, List.take_length]
  | argument =>
    dsimp only at found
    split at found
    · rename_i start value place
      cases found
      exact List.forall_mem_singleton.mpr (findArgument_faithful small place)
    · cases found
      exact List.forall_mem_nil _
  | hostname | os | arch =>
    dsimp only at found
    split at found
    · cases found
      exact one _
    · cases found
      exact List.forall_mem_nil _
  | _ =>
    cases found
    exact one _

theorem Extractor.BuiltIn.faithful (builtIn : x.BuiltIn h field)
    (small : e.data.length < halfWordLimit) (found : (x.extract h e offsets).1 = .ok values) :
    ∀ v ∈ values, v.Faithful field.path e.data := by
  cases builtIn with
  | generic built =>
    obtain ⟨kind, fits, rfl⟩ := Factory.generic_build_iff.mp built
    exact extractGeneric_faithful small fits.path found
  | @plugin p s f _ runs offered built =>
    obtain ⟨id, info, declares, rfl⟩ := (Factory.ofPlugin_build_iff offered).mp built
    have declared := List.mem_of_getElem? declares.entry
    unfold Extractor.extract at found
    dsimp only at found
    split at found
    · rw [(runs.extract _).1] at found
      cases answer : (Plugin.extract s (Request.make id info field e offsets)).1 with
      | ok all =>
        rw [answer] at found
        rw [runs.manifest] at declared
        have faithful := bundled_faithful (r := Request.make id info field e offsets) small declared
          answer
        rw [← declares.name]
        cases found
        intro v member
        refine faithful v ?_
        split at member
        · exact member
        · exact List.mem_of_mem_take member
      | failed message => rw [answer] at found; cases found
      | panicked panic => rw [answer] at found; cases found
    · cases found
      exact List.forall_mem_nil _

/-- The first pass leaves the plugin of a built-in field as it was. -/
theorem Extractor.BuiltIn.extract (builtIn : x.BuiltIn h field) :
    x.BuiltIn (x.extract h e offsets).2 field := by
  cases builtIn with
  | generic built => exact .generic built
  | @plugin p s f _ runs offered built =>
    obtain ⟨id, info, _, rfl⟩ := (Factory.ofPlugin_build_iff offered).mp built
    have kept : Host.Runs ((Extractor.plugin field p id info).extract h e offsets).2 p s := by
      unfold Extractor.extract
      dsimp only
      split
      · exact (runs.extract _).2
      · exact runs
    exact .plugin kept offered built

/-- An outcome that is cut down to one value has the first of the values. -/
theorem values_map_take (found : Outcome String (List Extracted)) (isList : Bool) :
    (found.map fun vs => if isList then vs else vs.take 1).values =
      found.values.map fun vs => if isList then vs else vs.take 1 := by
  cases found <;> cases isList <;> simp [Outcome.values, Outcome.map]

theorem extractGeneric_values {kind : GenericField}
    (repeatable : ∀ p, e.plugin = some p → ((h.render p e).2.render p e).1 = (h.render p e).1) :
    (Extractor.extractGeneric (Extractor.extractGeneric h field kind e).2 field kind e).1 =
      (Extractor.extractGeneric h field kind e).1 := by
  cases kind with
  | pluginInfo =>
    cases owner : e.plugin with
    | none => simp only [Extractor.extractGeneric, owner]
    | some p => simp only [Extractor.extractGeneric, owner, repeatable p owner]
  | argument | hostname | os | arch =>
    simp only [Extractor.extractGeneric]
    split <;> rfl
  | _ => rfl

theorem Extractor.BuiltIn.values_eq (builtIn : x.BuiltIn h field)
    (repeatable : ∀ p, e.plugin = some p → ((h.render p e).2.render p e).1 = (h.render p e).1) :
    (x.extract (x.extract h e false).2 e true).1.values = (x.extract h e false).1.values := by
  cases builtIn with
  | generic built =>
    obtain ⟨kind, _, rfl⟩ := Factory.generic_build_iff.mp built
    exact congrArg Outcome.values (extractGeneric_values repeatable)
  | @plugin p s f _ runs offered built =>
    obtain ⟨id, info, _, rfl⟩ := (Factory.ofPlugin_build_iff offered).mp built
    -- The plugin is asked in both passes or in neither.
    by_cases reads : p.manifest.reads e.source = true
    · obtain ⟨first, kept⟩ := runs.extract (Request.make id info field e false)
      simp only [Extractor.extract, reads, if_true]
      rw [values_map_take, values_map_take, first, (kept.extract _).1, bundled_values]
    · simp only [Extractor.extract, reads, if_false, Bool.false_eq_true]

/-- The values of the two passes over an event agree, and the ranges of either pass show where the
values were read. -/
theorem ranges_faithful (builtIn : x.BuiltIn h field) (small : e.data.length < halfWordLimit)
    (repeatable : ∀ p, e.plugin = some p → ((h.render p e).2.render p e).1 = (h.render p e).1) :
    let plain := x.extract h e false
    let located := x.extract plain.2 e true
    located.1.values = plain.1.values ∧
      ∀ values, plain.1 = .ok values ∨ located.1 = .ok values →
        ∀ v ∈ values, v.Faithful field.path e.data := by
  refine ⟨builtIn.values_eq repeatable, ?_⟩
  rintro values (found | found)
  · exact builtIn.faithful small found
  · exact builtIn.extract.faithful small found

end Passes

section Registration
variable {d : Descriptor Bundled} {config : String} {s : Bundled} {r : Registry}
  {h : Host (Bundled ⊕ ρ)} {p : Handle}

theorem init_map_eq_ok {d : Descriptor π} {f : π → σ} (made : (d.map f).init config = .ok state) :
    ∃ own, d.init config = .ok own ∧ f own = state := by
  simp only [Descriptor.map] at made
  cases own : d.init config with
  | ok own' =>
    rw [own] at made
    cases made
    exact ⟨own', rfl, rfl⟩
  | failed message => rw [own] at made; cases made
  | panicked panic => rw [own] at made; cases made

theorem manifest_of_init (bundled : d ∈ Bundled.all) (made : d.init config = .ok s) :
    s.manifest = d.manifest := by
  simp only [Bundled.all, List.mem_cons, List.not_mem_nil, or_false] at bundled
  obtain rfl | rfl | rfl | rfl | rfl := bundled <;>
    obtain ⟨_, _, rfl⟩ := init_map_eq_ok made <;> rfl

/-- Registering a bundled plugin gives a reference that leads to it. -/
theorem register_runs (bundled : d ∈ Bundled.all)
    (registered : (r.register h (d.map .inl) config).1 = .ok p) :
    ∃ s, (r.register h (d.map .inl) config).2.2.Runs p s := by
  obtain ⟨failed, _⟩ | ⟨h', state, answer, slots, made⟩ := r.register_cases h (d.map .inl) config
  · exact absurd registered (failed p)
  · rw [answer] at registered ⊢
    cases registered
    obtain ⟨s, own, rfl⟩ := init_map_eq_ok made
    refine ⟨s, (manifest_of_init bundled own).symm, ⟨d.manifest, .inl s⟩, ?_, rfl⟩
    rw [slots]
    exact List.getElem?_concat_length

end Registration

/-- A process that runs `payload` beside plugins of another family. -/
def wordHost : Host (Bundled ⊕ Scripted) :=
  (Registry.empty.register (Host.fresh Environment.bare) (Bundled.payload.map .inl) "").2.2

/-- A word after two-byte characters and two blanks. -/
theorem word_faithful :
    let e : Event := ⟨0, 0, "countdown", pluginEventType, Utf8.encode "é é  ü", none, none⟩
    ∃ (x : Extractor) (v : Extracted), x.BuiltIn wordHost ⟨"payload.word", some "3"⟩ ∧
      (x.extract (x.extract wordHost e false).2 e true).1 = .ok [v] ∧ v.range = some ⟨7, 2⟩ ∧
      Quotes "payload.word" (Range.slice ⟨7, 2⟩ e.data) "ü" := by
  intro e
  obtain ⟨s, runs⟩ : ∃ s, wordHost.Runs ⟨0, Bundled.payload.manifest⟩ s :=
    register_runs (by simp [Bundled.all]) rfl
  have builtIn : Extractor.BuiltIn wordHost ⟨"payload.word", some "3"⟩ _ := .plugin runs rfl rfl
  refine ⟨_, .located (.text "ü") 7 2, builtIn, rfl, rfl, ?_⟩
  obtain ⟨_, faithful⟩ := ranges_faithful builtIn (e := e) (by decide) (by rintro _ ⟨⟩)
  exact (faithful [.located (.text "ü") 7 2] (.inr rfl) _ (List.mem_singleton.mpr rfl) _ rfl).2

end EventProbe
