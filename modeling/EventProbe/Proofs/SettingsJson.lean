import EventProbe.Config.Json
import EventProbe.Proofs.JsonRecords

/-! The JSON form of settings. Settings come back from what they are written as; whatever of them an
object gives is read, and the rest is what it is by default; and no key that is unknown or given twice is
passed over. -/
namespace EventProbe.Config

open Json

/-! ## Objects with known keys -/

/-- Each key is one of the known keys, and none is there twice. -/
structure Keyed (known : List String) (ms : List (String × Value)) : Prop where
  once : (ms.map Prod.fst).Nodup
  known : ∀ key ∈ ms.map Prod.fst, key ∈ known

/-- The value under a key is as it should be, or there is none and something holds by default. -/
def Gives (ms : List (String × Value)) (key : String) (as : Value → Prop) (default : Prop) : Prop :=
  (∀ v, (key, v) ∈ ms → as v) ∧ (key ∉ ms.map Prod.fst → default)

def engineKeys : List String := ["platform_metadata_default", "hostname"]

def metricsKeys : List String := ["plugins", "engine"]

def settingsKeys : List String := ["log_level", "engine", "metrics"]

/-- The members of an object are settings of an engine, each of its type. -/
structure EngineTyped (ms : List (String × Value)) : Prop where
  keys : Keyed engineKeys ms
  platformDefault : ∀ v, ("platform_metadata_default", v) ∈ ms → ∃ b, v = .bool b
  hostname : ∀ v, ("hostname", v) ∈ ms → v = .null ∨ ∃ name, v = .text name

structure MetricsTyped (ms : List (String × Value)) : Prop where
  keys : Keyed metricsKeys ms
  plugins : ∀ v, ("plugins", v) ∈ ms → ∃ b, v = .bool b
  engine : ∀ v, ("engine", v) ∈ ms → ∃ b, v = .bool b

structure SettingsTyped (ms : List (String × Value)) : Prop where
  keys : Keyed settingsKeys ms
  logLevel : ∀ v, ("log_level", v) ∈ ms → ∃ level, v = .text level
  engine : ∀ v, ("engine", v) ∈ ms → ∃ inner, v = .object inner ∧ EngineTyped inner
  metrics : ∀ v, ("metrics", v) ∈ ms → ∃ inner, v = .object inner ∧ MetricsTyped inner

/-- The settings of an engine that the members of an object give. -/
structure EngineGiven (ms : List (String × Value)) (s : EngineSettings) : Prop where
  platformDefault : Gives ms "platform_metadata_default" (· = .bool s.platformDefault)
    (s.platformDefault = false)
  hostname : Gives ms "hostname" (· = s.hostname.elim .null .text) (s.hostname = none)

structure MetricsGiven (ms : List (String × Value)) (f : MetricFlags) : Prop where
  plugins : Gives ms "plugins" (· = .bool f.plugins) (f.plugins = true)
  engine : Gives ms "engine" (· = .bool f.engine) (f.engine = false)

structure SettingsGiven (ms : List (String × Value)) (s : Settings) : Prop where
  logLevel : Gives ms "log_level" (· = .text s.logLevel) (s.logLevel = "info")
  engine : Gives ms "engine" (fun v => ∃ inner, v = .object inner ∧ EngineGiven inner s.engine)
    (s.engine = ⟨false, none⟩)
  metrics : Gives ms "metrics" (fun v => ∃ inner, v = .object inner ∧ MetricsGiven inner s.metrics)
    (s.metrics = ⟨true, false⟩)

/-! ## Tables of members -/

/-- A member that may be left out, with its place in a draft. -/
def entry (name : String) (get : σ → Option α) (set : σ → α → σ) {read : Reader α} {mean : Value → Option α}
    (takes : Takes read mean) (get_set : ∀ draft x, get (set draft x) = some x) : Entry σ where
  member :=
    { name, optional := true, given := fun draft => (get draft).isSome
      read := fun draft rest => (read rest).map fun (v, rest) => (set draft v, rest) }
  Content := α
  get
  set
  mean
  given_eq _ := rfl
  get_set
  takes draft := takes.map (set draft)

def engineTable : Table EngineSettings.layout where
  entries := [
    entry "platform_metadata_default" (·.platformDefault) (fun d v => { d with platformDefault := some v })
      takes_bool (fun _ _ => rfl),
    entry "hostname" (·.hostname) (fun d v => { d with hostname := some v }) (takes_option takes_text)
      (fun _ _ => rfl)]
  members := rfl
  strict := rfl
  apart a inside b inside' differ draft x := by
    simp only [List.mem_cons, List.not_mem_nil, or_false] at inside inside'
    obtain rfl | rfl := inside <;> obtain rfl | rfl := inside' <;> first | rfl | exact absurd rfl differ

def metricsTable : Table metricsLayout where
  entries := [
    entry "plugins" (·.plugins) (fun d v => { d with plugins := some v }) takes_bool (fun _ _ => rfl),
    entry "engine" (·.engine) (fun d v => { d with engine := some v }) takes_bool (fun _ _ => rfl)]
  members := rfl
  strict := rfl
  apart a inside b inside' differ draft x := by
    simp only [List.mem_cons, List.not_mem_nil, or_false] at inside inside'
    obtain rfl | rfl := inside <;> obtain rfl | rfl := inside' <;> first | rfl | exact absurd rfl differ

def settingsTable : Table Settings.layout where
  entries := [
    entry "log_level" (·.logLevel) (fun d v => { d with logLevel := some v }) takes_text (fun _ _ => rfl),
    entry "engine" (·.engine) (fun d v => { d with engine := some v }) engineTable.takes_record
      (fun _ _ => rfl),
    entry "metrics" (·.metrics) (fun d v => { d with metrics := some v }) metricsTable.takes_record
      (fun _ _ => rfl)]
  members := rfl
  strict := rfl
  apart a inside b inside' differ draft x := by
    simp only [List.mem_cons, List.not_mem_nil, or_false] at inside inside'
    obtain rfl | rfl | rfl := inside <;> obtain rfl | rfl | rfl := inside' <;>
      first | rfl | exact absurd rfl differ

/-! ## Settings as they are written -/

theorem readBool_printBool (b : Bool) (rest : List Char) :
    readBool (printBool b ++ rest) = .ok (b, rest) := by
  cases b <;> rfl

theorem readOption_printText (s : String) (rest : List Char) :
    readOption readText (printText s ++ rest) = .ok (some s, rest) := by
  have read := readText_printText s rest
  rw [printText_append] at read ⊢
  rw [readOption_other rfl (by decide), read]
  rfl

/-- A member that is written as its reader reads it fills its place. -/
theorem fills_entry {l : Layout σ α} {t : Table l} {draft last : σ} {key : String} {get : σ → Option β}
    {set : σ → β → σ} {read : Reader β} {mean : Value → Option β} {takes : Takes read mean}
    {get_set : ∀ draft x, get (set draft x) = some x} {text : List Char} {x : β}
    {parts : List (String × List Char)}
    (known : t.entry? key = some (entry key get set takes get_set)) (blank : get draft = none)
    (reads : ∀ rest, read (text ++ rest) = .ok (x, rest)) (later : Fills l (set draft x) parts last) :
    Fills l draft ((key, text) :: parts) last := by
  have found := t.find?_members key
  rw [known] at found
  apply Fills.cons found
  · exact congrArg Option.isSome blank
  · intro rest _
    change (read (text ++ rest)).map _ = _
    rw [reads rest]
    rfl
  · exact later

theorem EngineSettings.read_json (s : EngineSettings) (rest : List Char) :
    readRecord EngineSettings.layout (s.json ++ rest) = .ok (s, rest) := by
  obtain ⟨platformDefault, hostname⟩ := s
  have platform := readBool_printBool platformDefault
  cases hostname with
  | none =>
    have fills : Fills EngineSettings.layout .blank
        [("platform_metadata_default", printBool platformDefault)] ⟨some platformDefault, none⟩ :=
      fills_entry (t := engineTable) rfl rfl platform .nil
    exact readRecord_printObject fills rfl rest
  | some name =>
    have fills : Fills EngineSettings.layout .blank
        [("platform_metadata_default", printBool platformDefault), ("hostname", printText name)]
        ⟨some platformDefault, some (some name)⟩ := by
      apply fills_entry (t := engineTable) rfl rfl platform
      exact fills_entry (t := engineTable) rfl rfl (readOption_printText name) .nil
    exact readRecord_printObject fills rfl rest

theorem read_metricsJson (f : MetricFlags) (rest : List Char) :
    readRecord metricsLayout (metricsJson f ++ rest) = .ok (f, rest) := by
  have fills : Fills metricsLayout .blank
      [("plugins", printBool f.plugins), ("engine", printBool f.engine)]
      ⟨some f.plugins, some f.engine⟩ := by
    apply fills_entry (t := metricsTable) rfl rfl (readBool_printBool f.plugins)
    exact fills_entry (t := metricsTable) rfl rfl (readBool_printBool f.engine) .nil
  exact readRecord_printObject fills rfl rest

theorem Settings.ofJson_json (s : Settings) : Settings.ofJson (String.ofList s.json) = .ok s := by
  have fills : Fills Settings.layout .blank
      [("log_level", printText s.logLevel), ("engine", s.engine.json), ("metrics", metricsJson s.metrics)]
      ⟨some s.logLevel, some s.engine, some s.metrics⟩ := by
    apply fills_entry (t := settingsTable) rfl rfl (readText_printText s.logLevel)
    apply fills_entry (t := settingsTable) rfl rfl s.engine.read_json
    exact fills_entry (t := settingsTable) rfl rfl (read_metricsJson s.metrics) .nil
  exact decode_printObject fills rfl

/-! ## Settings as objects give them -/

section Objects
variable {l : Layout σ α} {ms : List (String × Value)}

/-- What a record has from a place of its draft is what the object gives, or what it is by default. -/
theorem Gives.of_filled {t : Table l} {d : σ} {key : String} {get : σ → Option β}
    {set : σ → β → σ} {read : Reader β} {mean : Value → Option β} {takes : Takes read mean}
    {get_set : ∀ draft x, get (set draft x) = some x} (filled : t.fill l.start ms = some d)
    (known : t.entry? key = some (entry key get set takes get_set)) (blank : get l.start = none)
    (fits : β → Value → Prop) (meaning : ∀ v x, (key, v) ∈ ms → mean v = some x → fits x v)
    (default : β) :
    Gives ms key (fits ((get d).getD default)) ((get d).getD default = default) := by
  obtain ⟨present, missing⟩ := Table.fill_get filled known
  constructor
  · intro v inside
    obtain ⟨x, meant, holds⟩ := present v inside
    have holds : get d = some x := holds
    rw [holds]
    exact meaning v x inside meant
  · intro none
    have same : get d = get l.start := missing none
    rw [same, blank]
    rfl

/-- A key has a place, empty at first, and the value means something there. -/
def Fits (t : Table l) (key : String) (v : Value) : Prop :=
  ∃ e, t.entry? key = some e ∧ e.get l.start = none ∧ ∃ x, e.mean v = some x

/-- An object with known keys whose values fit means what the record is at the end of its draft. -/
theorem Keyed.fills {t : Table l} {known : List String} (keys : Keyed known ms)
    (typed : ∀ key ∈ known, ∀ v, (key, v) ∈ ms → Fits t key v) :
    ∃ d, t.fill l.start ms = some d ∧ t.record? (.object ms) = (l.finish d).toOption := by
  obtain ⟨d, filled⟩ : ∃ d, t.fill l.start ms = some d := by
    apply Table.exists_fill keys.once
    intro key v inside
    exact typed key (keys.known key (List.mem_map_of_mem inside)) v inside
  refine ⟨d, filled, ?_⟩
  rw [Table.record?, filled, Option.bind_some]

theorem option?_text {v : Value} {o : Option String} (means : Value.option? Value.text? v = some o) :
    v = o.elim .null .text := by
  by_cases null : v = .null
  · subst null
    cases means
    rfl
  · rw [Value.option?_of_ne_null null] at means
    obtain ⟨s, meant, rfl⟩ := Option.map_eq_some_iff.mp means
    exact Value.text?_eq_some meant

theorem EngineTyped.given (typed : EngineTyped ms) :
    ∃ s, engineTable.record? (.object ms) = some s ∧ EngineGiven ms s := by
  have members : ∀ key ∈ engineKeys, ∀ v, (key, v) ∈ ms → Fits engineTable key v := by
    intro key known v inside
    simp only [engineKeys, List.mem_cons, List.not_mem_nil, or_false] at known
    obtain rfl | rfl := known
    · obtain ⟨b, rfl⟩ := typed.platformDefault v inside
      exact ⟨_, rfl, rfl, b, rfl⟩
    · obtain rfl | ⟨name, rfl⟩ := typed.hostname v inside
      · exact ⟨_, rfl, rfl, none, rfl⟩
      · exact ⟨_, rfl, rfl, some name, rfl⟩
  obtain ⟨d, filled, means⟩ := typed.keys.fills members
  refine ⟨d.settings, means, ?_, ?_⟩
  · exact .of_filled filled rfl rfl (fun b v => v = .bool b) (fun _ _ _ => Value.bool?_eq_some) false
  · have known : engineTable.entry? "hostname" =
        some (entry "hostname" (·.hostname) _ (takes_option takes_text) _) := rfl
    exact .of_filled filled known rfl (fun name v => v = name.elim .null .text)
      (fun _ _ _ => option?_text) none

theorem MetricsTyped.given (typed : MetricsTyped ms) :
    ∃ f, metricsTable.record? (.object ms) = some f ∧ MetricsGiven ms f := by
  have members : ∀ key ∈ metricsKeys, ∀ v, (key, v) ∈ ms → Fits metricsTable key v := by
    intro key known v inside
    simp only [metricsKeys, List.mem_cons, List.not_mem_nil, or_false] at known
    obtain rfl | rfl := known
    · obtain ⟨b, rfl⟩ := typed.plugins v inside
      exact ⟨_, rfl, rfl, b, rfl⟩
    · obtain ⟨b, rfl⟩ := typed.engine v inside
      exact ⟨_, rfl, rfl, b, rfl⟩
  obtain ⟨d, filled, means⟩ := typed.keys.fills members
  refine ⟨d.flags, means, ?_, ?_⟩
  · exact .of_filled filled rfl rfl (fun b v => v = .bool b) (fun _ _ _ => Value.bool?_eq_some) true
  · exact .of_filled filled rfl rfl (fun b v => v = .bool b) (fun _ _ _ => Value.bool?_eq_some) false

/-- What a typed object means is what it gives. -/
theorem object_gives {t : Table l} {Typed : List (String × Value) → Prop}
    {Given : List (String × Value) → α → Prop} {v : Value} {whole : α}
    (typed : ∃ inner, v = .object inner ∧ Typed inner)
    (given : ∀ {inner}, Typed inner → ∃ a, t.record? (.object inner) = some a ∧ Given inner a)
    (meant : t.record? v = some whole) : ∃ inner, v = .object inner ∧ Given inner whole := by
  obtain ⟨inner, rfl, typed⟩ := typed
  obtain ⟨a, means, gives⟩ := given typed
  obtain rfl : a = whole := Option.some.inj (means.symm.trans meant)
  exact ⟨inner, rfl, gives⟩

theorem SettingsTyped.given (typed : SettingsTyped ms) :
    ∃ s, settingsTable.record? (.object ms) = some s ∧ SettingsGiven ms s := by
  have members : ∀ key ∈ settingsKeys, ∀ v, (key, v) ∈ ms → Fits settingsTable key v := by
    intro key known v inside
    simp only [settingsKeys, List.mem_cons, List.not_mem_nil, or_false] at known
    obtain rfl | rfl | rfl := known
    · obtain ⟨level, rfl⟩ := typed.logLevel v inside
      exact ⟨_, rfl, rfl, level, rfl⟩
    · obtain ⟨inner, rfl, typed⟩ := typed.engine v inside
      obtain ⟨s, means, _⟩ := typed.given
      exact ⟨_, rfl, rfl, s, means⟩
    · obtain ⟨inner, rfl, typed⟩ := typed.metrics v inside
      obtain ⟨f, means, _⟩ := typed.given
      exact ⟨_, rfl, rfl, f, means⟩
  obtain ⟨d, filled, means⟩ := typed.keys.fills members
  refine ⟨d.settings, means, ?_, ?_, ?_⟩
  · exact .of_filled filled rfl rfl (fun level v => v = .text level) (fun _ _ _ => Value.text?_eq_some) "info"
  · exact .of_filled filled rfl rfl (fun s v => ∃ inner, v = .object inner ∧ EngineGiven inner s)
      (fun v s inside meant => object_gives (typed.engine v inside) EngineTyped.given meant) ⟨false, none⟩
  · exact .of_filled filled rfl rfl (fun f v => ∃ inner, v = .object inner ∧ MetricsGiven inner f)
      (fun v f inside meant => object_gives (typed.metrics v inside) MetricsTyped.given meant) ⟨true, false⟩

/-- An object of settings that is read has known keys, each once, and so have those inside it. -/
theorem settings_keyed {s : Settings} (means : settingsTable.record? (.object ms) = some s) :
    Keyed settingsKeys ms ∧ (∀ inner, ("engine", .object inner) ∈ ms → Keyed engineKeys inner) ∧
      ∀ inner, ("metrics", .object inner) ∈ ms → Keyed metricsKeys inner := by
  obtain ⟨once, known⟩ := Table.record?_keys means
  obtain ⟨d, filled, _⟩ := Option.bind_eq_some_iff.mp means
  refine ⟨⟨once, known⟩, ?_, ?_⟩
  · intro inner inside
    obtain ⟨e, meant, _⟩ := (Table.fill_get filled rfl).1 _ inside
    obtain ⟨once, known⟩ := Table.record?_keys meant
    exact ⟨once, known⟩
  · intro inner inside
    obtain ⟨f, meant, _⟩ := (Table.fill_get filled rfl).1 _ inside
    obtain ⟨once, known⟩ := Table.record?_keys meant
    exact ⟨once, known⟩

/-- Settings come back from their JSON form. Every object with known keys, in any order and with values
of their types, is read: what it gives is as it is given, and the rest as it is by default. An object with
an unknown key or one that is there twice is refused, and so is one with such a section. -/
theorem json_lossless_and_strict :
    (∀ s : Settings, Settings.ofJson (String.ofList s.json) = .ok s) ∧
    (∀ ms text, Document (.object ms) text → SettingsTyped ms →
      ∃ s, Settings.ofJson text = .ok s ∧ SettingsGiven ms s) ∧
    ∀ ms text, Document (.object ms) text →
      ¬ Keyed settingsKeys ms ∨
        (∃ inner, ("engine", .object inner) ∈ ms ∧ ¬ Keyed engineKeys inner) ∨
        (∃ inner, ("metrics", .object inner) ∈ ms ∧ ¬ Keyed metricsKeys inner) →
      ∃ message, Settings.ofJson text = .error message := by
  refine ⟨Settings.ofJson_json, ?_, ?_⟩
  · intro ms text document typed
    obtain ⟨s, means, gives⟩ := typed.given
    exact ⟨s, (decode_document settingsTable.takes_record document).1 s means, gives⟩
  · intro ms text document stray
    apply (decode_document settingsTable.takes_record document).2
    cases means : settingsTable.record? (.object ms) with
    | none => rfl
    | some s =>
      obtain ⟨keys, engine, metrics⟩ := settings_keyed means
      obtain stray | ⟨inner, inside, stray⟩ | ⟨inner, inside, stray⟩ := stray
      · exact absurd keys stray
      · exact absurd (engine inner inside) stray
      · exact absurd (metrics inner inside) stray

/-- A level that is written with an escape, and a section with a stray key. -/
theorem escaped_level_read :
    (∃ s, Settings.ofJson "\x7b \"log_level\":\"\\u0064\"\x7d" = .ok s ∧
      SettingsGiven [("log_level", .text "d")] s) ∧
    ∃ message, Settings.ofJson "\x7b\"engine\":\x7b\"host\":null\x7d\x7d" = .error message := by
  have plain : ∀ key ∈ ["log_level", "engine", "host"], ∀ c ∈ key.toList,
      c ≠ '"' ∧ c ≠ '\\' ∧ ¬ c.toNat < 0x20 := by simp
  have unit : CodeUnit 0x64 ('\\' :: 'u' :: '0' :: '0' :: '6' :: '4' :: '"' :: ['\x7d']) ('"' :: ['\x7d']) :=
    .intro (i := 0) (j := 0) (k := 6) (l := 4) rfl rfl rfl rfl
  have level : Quoted "d" ('"' :: '\\' :: 'u' :: '0' :: '0' :: '6' :: '4' :: '"' :: ['\x7d']) ['\x7d'] :=
    .intro (.unit unit (by decide) (by decide) .close)
  have leveled : Document (.object [("log_level", .text "d")]) "\x7b \"log_level\":\"\\u0064\"\x7d" :=
    ⟨_, [], .none, .object (.member (.first (.more rfl .none))
      (.intro (spells_plain (plain "log_level" (by decide)) _)) .none .none (.text level) (.done .none)), .none⟩
  have stray : Document (.object [("engine", .object [("host", .null)])])
      "\x7b\"engine\":\x7b\"host\":null\x7d\x7d" :=
    ⟨_, [], .none, .object (.member (.first .none) (.intro (spells_plain (plain "engine" (by decide)) _))
      .none .none (.object (.member (.first .none) (.intro (spells_plain (plain "host" (by decide)) _))
        .none .none .null (.done .none))) (.done .none)), .none⟩
  have typed : SettingsTyped [("log_level", .text "d")] := by
    refine ⟨⟨by decide, by decide⟩, ?_, ?_, ?_⟩
    · intro v inside
      simp only [List.mem_singleton, Prod.mk.injEq, true_and] at inside
      exact ⟨"d", inside⟩
    · intro v inside
      simp at inside
    · intro v inside
      simp at inside
  have unknown : ¬ Keyed engineKeys [("host", .null)] := by
    intro keyed
    exact absurd (keyed.known "host" (by decide)) (by decide)
  exact ⟨json_lossless_and_strict.2.1 _ _ leveled typed,
    json_lossless_and_strict.2.2 _ _ stray (.inr (.inl ⟨_, List.mem_cons_self, unknown⟩))⟩

end Objects

end EventProbe.Config
