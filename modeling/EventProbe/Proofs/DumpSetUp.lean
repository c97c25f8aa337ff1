import EventProbe.Proofs.BuiltInFields
import EventProbe.Proofs.BundledStreams
import EventProbe.Proofs.ExtractionAgreement
import EventProbe.Proofs.PluginSlots

/-! What the dump program is set up with. Before it opens its source it registers bundled plugins and
makes their fields available; then its driver is at the start of a stream that ends. -/
namespace EventProbe

theorem Bundled.init_sound {d : Descriptor Bundled} {config : String} {p : Bundled}
    (bundled : d ∈ Bundled.all) (made : d.init config = .ok p) : p.Sound := by
  simp only [Bundled.all, List.mem_cons, List.not_mem_nil, or_false] at bundled
  obtain rfl | rfl | rfl | rfl | rfl := bundled
  · obtain ⟨own, configured, rfl⟩ := init_map_eq_ok made
    simp only [Countdown.descriptor, Countdown.init] at configured
    split at configured
    · cases configured
    · split at configured
      · cases configured
      · rename_i several
        cases configured
        exact several
  all_goals
    obtain ⟨_, _, rfl⟩ := init_map_eq_ok made
    trivial

/-- A driver that has opened a source and has taken no event from it. -/
structure Driver.AtStart (d : Driver BundledSource) : Prop where
  streaming : ∃ s, d.Streaming s
  nextNum : d.engine.nextNum = 0
  coherent : d.extractors.Coherent

section Openings
variable {d d' : Driver BundledSource} {h h' : Host Bundled}

theorem Driver.openCapture_atStart {file : Except IoFault (List UInt8)}
    (coherent : d.extractors.Coherent) (opened : d.openCapture file = (.ok (), d')) : d'.AtStart := by
  unfold Driver.openCapture at opened
  split at opened
  · cases opened
  · split at opened
    · cases opened
    · rename_i engine started
      cases opened
      obtain ⟨_, contents, _, _, rfl⟩ := Engine.openCapture_starts started
      exact ⟨⟨.capture contents.records, rfl, rfl, rfl, trivial⟩, rfl, coherent⟩

theorem Driver.openPlugin_atStart {name params : String} {platform : Bool}
    (coherent : d.extractors.Coherent) (sound : ∀ slot ∈ h.slots, slot.state.Sound)
    (opened : d.openPlugin h name params platform = (.ok (), d', h')) : d'.AtStart := by
  unfold Driver.openPlugin at opened
  split at opened
  · cases opened
  · split at opened
    · cases opened
    · cases opened
    · rename_i engine host started
      cases opened
      obtain ⟨owner, source, state, detected, _, _, made, rfl⟩ := Engine.openPlugin_starts started
      have sound := Host.openSource_bundled sound (congrArg Prod.fst made)
      exact ⟨⟨.plugin ⟨owner, source, state, []⟩, rfl, rfl, rfl, sound⟩, rfl, coherent⟩

end Openings

namespace Dump

/-- What holds of a session before its source is opened. -/
structure Session.Ready (s : Session) : Prop where
  coherent : s.driver.extractors.Coherent
  sound : ∀ slot ∈ s.host.slots, slot.state.Sound

namespace Session.Ready
variable {s s' : Session} {name config : String} {p : Handle}

theorem register (ready : s.Ready) (registered : s.register name config = (.ok p, s')) :
    s'.Ready := by
  unfold Session.register at registered
  split at registered
  · cases registered
  · rename_i plugin found
    have bundled : plugin ∈ Bundled.all := List.mem_of_find?_eq_some found
    obtain ⟨driver, host, answer, rfl⟩ : ∃ driver host,
        s.driver.register s.host plugin config = (.ok p, driver, host) ∧
          s' = ⟨driver, host, s.registered ++ [name]⟩ := by
      split at registered <;> cases registered
      exact ⟨_, _, ‹_›, rfl⟩
    have left := congrArg Prod.snd answer
    have extractors : driver.extractors = s.driver.extractors :=
      congrArg (·.1.extractors) left.symm
    have slots : host.slots = (s.driver.engine.registry.register s.host plugin config).2.2.slots :=
      congrArg (·.2.slots) left.symm
    refine ⟨extractors ▸ ready.coherent, ?_⟩
    intro slot held
    rw [slots] at held
    obtain ⟨_, _, same⟩ | ⟨h', state, added, new, made⟩ :=
      s.driver.engine.registry.register_cases s.host plugin config
    · rw [same] at held
      exact ready.sound slot held
    · rw [added, new] at held
      obtain old | own := List.mem_append.mp held
      · exact ready.sound slot old
      · rw [List.mem_singleton.mp own]
        exact Bundled.init_sound bundled made

theorem extractors (ready : s.Ready) (p : Handle) (source : String) :
    { s with driver := s.driver.addExtractors p source }.Ready :=
  ⟨Driver.addExtractors_coherent ready.coherent p source, ready.sound⟩

theorem addExtractor {source : String} (ready : s.Ready)
    (added : s.addExtractor source name = (.ok (), s')) : s'.Ready := by
  unfold Session.addExtractor at added
  split at added
  · cases added
    exact ready
  · split at added
    · cases added
    · rename_i registered
      cases added
      exact (ready.register registered).extractors _ source

theorem addExtractors {names : List String} {source : String} (ready : s.Ready)
    (added : s.addExtractors source names = (.ok (), s')) : s'.Ready := by
  induction names generalizing s with
  | nil =>
    cases added
    exact ready
  | cons name rest ih =>
    unfold Session.addExtractors at added
    split at added
    · cases added
    · rename_i first
      exact ih (ready.addExtractor first) added

theorem openCapture {path : String} {file : Except IoFault (List UInt8)} (ready : s.Ready)
    (opened : s.openCapture path file = (.ok (), s')) : s'.driver.AtStart := by
  unfold Session.openCapture at opened
  split at opened
  · cases opened
  · rename_i driver answer
    cases opened
    exact Driver.openCapture_atStart ready.coherent answer

theorem openPlugin {params : String} {platform : Bool} (ready : s.Ready)
    (opened : s.openPlugin name params platform = (.ok (), s')) : s'.driver.AtStart := by
  unfold Session.openPlugin at opened
  split at opened
  · cases opened
  · cases opened
  · rename_i driver host answer
    cases opened
    exact Driver.openPlugin_atStart ready.coherent ready.sound answer

end Session.Ready

/-! ## Steps of the set-up -/

section Steps
variable {told told' entries : List Log.Entry} {s : Session}

theorem SetUp.bind_eq_ok {x : SetUp α} {f : α → SetUp β} {b : β}
    (done : (x >>= f) told = (.ok b, told')) :
    ∃ a mid, x told = (.ok a, mid) ∧ f a mid = (.ok b, told') := by
  change ExceptT.bindCont f (x told).1 (x told).2 = _ at done
  rcases stepped : x told with ⟨answer, mid⟩
  rw [stepped] at done
  cases answer with
  | error failure => cases done
  | ok a => exact ⟨a, mid, rfl, done⟩

theorem Session.proceed_eq_ok {step : Except Failure α × Session} {a : α}
    (done : proceed entries step told = (.ok (a, s), told')) : step = (.ok a, s) := by
  obtain ⟨failure | _, _⟩ := step <;> cases done
  rfl

theorem Session.start_ready {environment : Environment} {settings : Config.Settings}
    (started : start environment settings told = (.ok s, told')) : s.Ready := by
  unfold start Driver.withSettings at started
  cases valid : settings.validate with
  | error reason =>
    simp only [valid] at started
    cases started
  | ok =>
    simp only [valid] at started
    cases started
    exact ⟨.fresh, by simp [Host.fresh]⟩

theorem prepare_eq_ok {p d : Dump} {source : String}
    (done : p.prepare source told = (.ok (.dump d), told')) : d = p := by
  cases done
  rfl

end Steps

/-- The program that is set up asks for what the options ask for, and is at the start of a stream. -/
theorem setUp_atStart {files : Files} {environment : Environment} {settings : Config.Settings}
    {i : CommandLine.Invocation} {told told' : List Log.Entry} {d : Dump}
    (ready : setUp files environment settings i told = (.ok (.dump d), told')) :
    ∃ path s, d = ofSession i.options path s ∧ s.driver.AtStart := by
  obtain ⟨s, _, started, ready⟩ := SetUp.bind_eq_ok ready
  have first := Session.start_ready started
  cases command : i.command with
  | fields =>
    rw [command] at ready
    cases ready
  | capture path source =>
    rw [command] at ready
    obtain ⟨⟨_, s₁⟩, _, added, ready⟩ := SetUp.bind_eq_ok ready
    obtain ⟨⟨_, s₂⟩, _, opened, ready⟩ := SetUp.bind_eq_ok ready
    obtain ⟨_, _, _, ready⟩ := SetUp.bind_eq_ok ready
    have prepared := first.addExtractors (Session.proceed_eq_ok added)
    exact ⟨_, s₂, prepare_eq_ok ready, prepared.openCapture (Session.proceed_eq_ok opened)⟩
  | plugin name initConfig openParams platform =>
    rw [command] at ready
    obtain ⟨⟨p, s₁⟩, _, registered, ready⟩ := SetUp.bind_eq_ok ready
    cases generated : p.manifest.eventSource with
    | none =>
      simp only [generated] at ready
      cases ready
    | some source =>
      simp only [generated] at ready
      obtain ⟨_, _, _, ready⟩ := SetUp.bind_eq_ok ready
      obtain ⟨⟨_, s₂⟩, _, added, ready⟩ := SetUp.bind_eq_ok ready
      obtain ⟨⟨_, s₃⟩, _, opened, ready⟩ := SetUp.bind_eq_ok ready
      obtain ⟨_, _, _, ready⟩ := SetUp.bind_eq_ok ready
      have made := (first.register (Session.proceed_eq_ok registered)).extractors p
      have prepared := (made _).addExtractors (Session.proceed_eq_ok added)
      exact ⟨_, s₃, prepare_eq_ok ready, prepared.openPlugin (Session.proceed_eq_ok opened)⟩

end Dump

end EventProbe
