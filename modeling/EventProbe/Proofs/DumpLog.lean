import EventProbe.Proofs.DumpLines
import EventProbe.Proofs.DumpSetUp
import EventProbe.Proofs.LogWrites

/-! The log of the dump program warns of nothing. Only events that a plugin refuses and sources that fail
are warned of, and no bundled plugin does either. -/
namespace EventProbe

open Log (Quiet)

/-! ## Steps of a driver -/

/-- A refused event is all that is logged while an event is offered. -/
theorem Engine.offerLog_eq_nil [Plugin π ι] {h : Host π} {e : Event} {plugins : List Handle}
    (accepted : (offer h e plugins).1 = .ok ()) : offerLog h e plugins = [] := by
  induction plugins generalizing h with
  | nil => rfl
  | cons p rest ih =>
    unfold offer at accepted
    unfold offerLog
    split at accepted
    · rename_i parses
      rw [if_pos parses]
      rcases parsed : h.parse p e with ⟨answer, h'⟩
      rw [parsed] at accepted
      cases answer with
      | ok => exact ih accepted
      | failed reason => cases accepted
      | panicked panic => cases accepted
    · rename_i skips
      rw [if_neg skips]
      exact ih accepted

section Steps
variable {s : Source BundledSource} {h : Host Bundled} {d d' : Driver BundledSource}

theorem Source.Sound.fetchLog_quiet (sound : s.Sound) (h : Host Bundled) (batches : Nat) :
    Quiet (s.fetchLog h batches) := by
  cases s with
  | capture records => exact Log.quiet_nil
  | plugin stream =>
    obtain ⟨owner, source, state, pending⟩ := stream
    cases pending with
    | cons e rest => exact Log.quiet_nil
    | nil =>
      have gives := h.nextBatch_bundled owner (i := state) sound
      simp only [fetchLog, fetch]
      generalize (h.nextBatch owner state).1 = answer at gives
      cases gives with
      | events list => cases list <;> simp
      | nothing => exact Log.quiet_nil
      | exhausted => exact Log.quiet_nil

theorem Driver.Streaming.nextLog_quiet (streaming : d.Streaming s) (h : Host Bundled) (path : String)
    (batches : Nat) : Quiet (d.nextLog h path batches) := by
  obtain ⟨capturing, unfinished, source, sound⟩ := streaming
  have supplies := sound.supplies h
  simp only [nextLog, capturing, Engine.nextLog, Engine.asked, unfinished, source, Log.quiet_append]
  refine ⟨sound.fetchLog_quiet h batches, ?_⟩
  rcases pulled : s.pull h with ⟨answer, s', h'⟩
  rw [pulled] at supplies
  cases supplies with
  | event =>
    dsimp only
    rw [Engine.offerLog_eq_nil (Engine.offer_bundled h' _ _)]
    exact Log.quiet_nil
  | timeout => exact Log.quiet_nil
  | eof => simp

/-- Drivers beside each other capture from the same source. -/
theorem Driver.Mirrors.streaming {h' : Host Bundled} (mirrors : d.Mirrors h d' h')
    (streaming : d.Streaming s) : d'.Streaming s := by
  obtain ⟨capturing, unfinished, source, sound⟩ := streaming
  obtain ⟨_, _, sources⟩ := mirrors.driver
  obtain ⟨sources⟩ := sources
  refine ⟨capturing, unfinished, ?_, sound⟩
  rw [source] at sources
  cases sources with
  | some alike =>
    cases alike with
    | capture => rfl
    | plugin same =>
      cases same
      rfl

theorem Driver.dropLog_quiet (d : Driver BundledSource) (path : String) : Quiet (d.dropLog path) := by
  have stops : Quiet (d.engine.stopLog path) := by
    unfold Engine.stopLog
    cases d.engine.source with
    | none => exact Log.quiet_nil
    | some s => cases s <;> simp [Source.closeLog]
  simp only [dropLog, Engine.shutdownLog, Log.quiet_append]
  refine ⟨⟨stops, ?_⟩, by simp⟩
  split <;> simp

end Steps

/-! ## The set-up -/

section Operations
variable (d : Driver BundledSource) (h : Host Bundled)

theorem Extractors.addLog_quiet (r : Extractors) (f : Factory) : Quiet (r.addLog f) := by
  unfold addLog
  split <;> simp

namespace Driver

theorem madeLog_quiet : Quiet d.madeLog := by
  simp [madeLog, Extractors.addLog_quiet]

theorem addExtractorsLog_quiet (p : Handle) (source : String) :
    Quiet (d.addExtractorsLog p source) := by
  unfold addExtractorsLog
  split
  · simp
  split
  · simp
  refine Log.quiet_append.mpr ⟨Extractors.addLog_quiet _ _, ?_⟩
  split
  · exact Log.quiet_nil
  · refine Log.quiet_append.mpr ⟨Extractors.addLog_quiet _ _, ?_⟩
    split <;> simp

theorem openCaptureLog_quiet (path : String) (file : Except IoFault (List UInt8)) :
    Quiet (d.openCaptureLog path file) := by
  unfold openCaptureLog Engine.openCaptureLog
  repeat' split
  all_goals simp

theorem openPluginLog_quiet (name params : String) (platform : Bool) :
    Quiet (d.openPluginLog h name params platform) := by
  unfold openPluginLog Engine.openPluginLog
  repeat' split
  all_goals simp

theorem registerLog_quiet (plugin : Descriptor Bundled) (config : String) :
    Quiet (d.registerLog h plugin config) := by
  have own : Quiet (Bundled.initLog plugin config) := by
    unfold Bundled.initLog Countdown.initLog
    repeat' split
    all_goals simp
  unfold registerLog
  split <;> simp [own]

end Driver

end Operations

namespace Dump

namespace Session
variable (s : Session)

theorem registerLog_quiet (name config : String) : Quiet (s.registerLog name config) := by
  unfold registerLog
  split
  · exact Log.quiet_nil
  · exact s.driver.registerLog_quiet s.host _ config

theorem addExtractorsLog_quiet (source : String) (names : List String) :
    Quiet (s.addExtractorsLog source names) := by
  have one (s : Session) (name : String) : Quiet (s.addExtractorLog source name) := by
    unfold addExtractorLog
    split
    · simp
    · refine Log.quiet_append.mpr ⟨s.registerLog_quiet name "", ?_⟩
      split
      · exact Log.quiet_nil
      · exact Driver.addExtractorsLog_quiet _ _ source
  induction names generalizing s with
  | nil => exact Log.quiet_nil
  | cons name rest ih =>
    refine Log.quiet_append.mpr ⟨one s name, ?_⟩
    split
    · exact Log.quiet_nil
    · exact ih _

theorem dropLog_quiet : Quiet s.dropLog :=
  s.driver.dropLog_quiet ""

end Session

/-- A part of the set-up that adds no warning to the log, whether it fails or not. -/
def SetUp.Hushed (x : SetUp α) : Prop :=
  ∀ told, Quiet told → Quiet (x told).2

namespace SetUp.Hushed

theorem pure (a : α) : Hushed (Pure.pure a) :=
  fun _ quiet => quiet

theorem throw (failure : Failure) : Hushed (MonadExcept.throw failure : SetUp α) :=
  fun _ quiet => quiet

theorem tell {entries : List Log.Entry} (new : Quiet entries) : Hushed (Dump.tell entries) :=
  fun _ quiet => Log.quiet_append.mpr ⟨quiet, new⟩

theorem bind {x : SetUp α} {f : α → SetUp β} (first : Hushed x) (rest : ∀ a, Hushed (f a)) :
    Hushed (x >>= f) := by
  intro told quiet
  have middle := first told quiet
  change Quiet (ExceptT.bindCont f (x told).1 (x told).2).2
  rcases stepped : x told with ⟨answer, mid⟩
  rw [stepped] at middle
  cases answer with
  | error failure => exact middle
  | ok a => exact rest a mid middle

theorem fail (s : Session) (failure : Failure) : Hushed (s.fail failure : SetUp α) :=
  bind (tell s.dropLog_quiet) fun _ => throw failure

theorem proceed {entries : List Log.Entry} (new : Quiet entries)
    (done : Except Failure α × Session) : Hushed (Session.proceed entries done) := by
  refine bind (tell new) fun _ => ?_
  obtain ⟨failure | a, s⟩ := done
  · exact fail s failure
  · exact pure _

theorem start (environment : Environment) (settings : Config.Settings) :
    Hushed (Session.start environment settings) := by
  unfold Session.start
  split
  · exact throw _
  · exact bind (tell (Driver.madeLog_quiet _)) fun _ => pure _

theorem prepare (d : Dump) (source : String) : Hushed (d.prepare source) :=
  bind (tell (by simp)) fun _ => pure _

end SetUp.Hushed

theorem setUp_hushed (files : Files) (environment : Environment) (settings : Config.Settings)
    (i : CommandLine.Invocation) : (setUp files environment settings i).Hushed := by
  refine .bind (.start environment settings) fun s => ?_
  split
  · exact .pure _
  · refine .bind (.proceed (s.addExtractorsLog_quiet _ _) _) fun (_, s) => ?_
    refine .bind (.proceed (s.driver.openCaptureLog_quiet _ _) _) fun (_, s) => ?_
    exact .bind (.tell (by simp)) fun _ => .prepare _ _
  · refine .bind (.proceed (s.registerLog_quiet _ _) _) fun (handle, s) => ?_
    dsimp only
    split
    · exact .fail _ _
    · refine .bind (.tell (s.driver.addExtractorsLog_quiet _ _)) fun _ => ?_
      refine .bind (.proceed (Session.addExtractorsLog_quiet _ _ _) _) fun (_, s) => ?_
      refine .bind (.proceed (s.driver.openPluginLog_quiet _ _ _ _) _) fun (_, s) => ?_
      exact .bind (.tell (by simp)) fun _ => .prepare _ _

/-! ## Steps of the program -/

theorem written_quiet {d : Dump} {s : Source BundledSource} (streaming : d.driver.Streaming s) :
    Quiet (Write.logged d.written) := by
  have step : Quiet d.stepLog := by
    unfold stepLog
    split
    · exact Log.quiet_nil
    · exact streaming.nextLog_quiet _ _ _
  have after : Quiet (Write.logged d.advance.writes) := by
    cases d.advance with
    | printed line next => exact Log.quiet_nil
    | waiting next => exact Log.quiet_nil
    | ended failure last =>
      have drop : Quiet last.dropLog := last.driver.dropLog_quiet last.path
      cases failure <;> simp [Progress.writes, drop]
  simp [written, step, after]

end Dump

end EventProbe
