import EventProbe.Proofs.DumpLog

/-! What the dump program prints. It prints a line for every event of its stream, up to the limit and
up to the first event with a field that cannot be extracted, whatever the times at which it asks for
events; all else that it writes is its log, which warns of nothing. -/
namespace EventProbe
open Log (Quiet)

def Host.atTime (h : Host π) (now : Nat) : Host π :=
  { h with now }

/-- The events that a driver delivers when it is asked over and over, up to the end of its stream. The
clock tells the time of each attempt, of which so many were made before. -/
inductive Driver.Delivers (clock : Nat → Nat) :
    Nat → Driver BundledSource → Host Bundled → List Dump.Stop → Prop where
  | eof : d.next (h.atTime (clock t)) = (.ok (.eof, e), d', h') → Delivers clock t d h []
  | timeout : d.next (h.atTime (clock t)) = (.ok (.timeout, e), d', h') →
      Delivers clock (t + 1) d' h' stops → Delivers clock t d h stops
  | event : d.next (h.atTime (clock t)) = (.ok (.ok, e), d', h') →
      Delivers clock (t + 1) d' h' stops → Delivers clock t d h (⟨d', h', e⟩ :: stops)

theorem Driver.Mirrors.steps {d d' e' : Driver BundledSource} {h h' k' : Host Bundled} {now : Nat}
    {answer : Except Panic (Status × EventHandle)} (mirrors : d.Mirrors h d' h')
    (stepped : d.next (h.atTime now) = (answer, e', k')) :
    ∃ driver host, d'.next (h'.atTime now) = (answer, driver, host) ∧
      e'.Mirrors k' driver host ∧ host.now = now := by
  have later : d.Mirrors (h.atTime now) d' (h'.atTime now) :=
    { mirrors with host := ⟨mirrors.host.slots, mirrors.host.environment, rfl, mirrors.host.drivers⟩ }
  have agree := later.next Plugin.unobtrusive_bundled
  have continues := (d'.next_continues (h'.atTime now)).now
  rcases own : d'.next (h'.atTime now) with ⟨answer', driver, host⟩
  rw [stepped, own] at agree
  rw [own] at continues
  cases agree with
  | intro _ mirrors' => exact ⟨driver, host, rfl, mirrors', continues⟩

/-- The stream of a driver that captures from a source of a bundled plugin ends. -/
theorem Driver.Streaming.delivers {d : Driver BundledSource} {s : Source BundledSource}
    (streaming : d.Streaming s) (clock : Nat → Nat) (t : Nat) (h : Host Bundled) :
    ∃ stops, d.Delivers clock t h stops := by
  induction attempts : s.attempts using Nat.strongRecOn generalizing d s t h with
  | ind n ih =>
    subst attempts
    rcases stepped : d.next (h.atTime (clock t)) with ⟨answer, d', h'⟩
    cases streaming.proceeds stepped with
    | event streaming' less _ =>
      obtain ⟨stops, later⟩ := ih _ less streaming' (t + 1) h' rfl
      exact ⟨_, .event stepped later⟩
    | timeout streaming' less _ =>
      obtain ⟨stops, later⟩ := ih _ less streaming' (t + 1) h' rfl
      exact ⟨stops, .timeout stepped later⟩
    | eof => exact ⟨[], .eof stepped⟩

namespace Dump

def atTime (p : Dump) (now : Nat) : Dump :=
  { p with host := p.host.atTime now }

/-- The program after a step that is not its last. -/
def Progress.next? : Progress → Option Dump
  | .printed _ next | .waiting next => some next
  | .ended .. => none

/-- What the program writes from a state on, and the failure that it ends with. -/
inductive Prints (clock : Nat → Nat) : Nat → Dump → List Write → Option Failure → Prop where
  | ended : (p.atTime (clock t)).advance = .ended ends last →
      Prints clock t p (p.atTime (clock t)).written ends
  | goes : (p.atTime (clock t)).advance.next? = some next → Prints clock (t + 1) next rest ends →
      Prints clock t p ((p.atTime (clock t)).written ++ rest) ends

theorem Prints.unique {clock : Nat → Nat} {p : Dump} {written written' : List Write}
    {ends ends' : Option Failure} (first : Prints clock t p written ends)
    (second : Prints clock t p written' ends') : written' = written ∧ ends' = ends := by
  induction first generalizing written' with
  | ended step =>
    cases second with
    | ended step' =>
      cases step.symm.trans step'
      exact ⟨rfl, rfl⟩
    | goes step' =>
      rw [step] at step'
      cases step'
  | goes step _ ih =>
    cases second with
    | ended step' =>
      rw [step'] at step
      cases step
    | goes step' later =>
      cases step.symm.trans step'
      obtain ⟨rfl, rfl⟩ := ih later
      exact ⟨rfl, rfl⟩

/-- The texts of a step are its line, if it prints one; all else that it writes is its log. -/
theorem texts_written (p : Dump) :
    Write.texts p.written = match p.advance with
      | .printed line _ => [line ++ "\n"]
      | _ => [] := by
  rw [written, Write.texts_append, Write.texts_ofLog, List.nil_append]
  cases p.advance with
  | printed line next => rfl
  | waiting next => rfl
  | ended failure last =>
    cases failure with
    | none => exact Write.texts_ofLog _
    | some failure => exact Write.texts_ofLog _

/-- What is to be printed of events, the first of which has this position: a line for each, up to the
first with a field that cannot be extracted. -/
inductive Printout (asked : List String) (offsets : Bool) :
    Nat → List Stop → List String → Option Failure → Prop where
  | done : Printout asked offsets n [] [] none
  | line : s.Reads offsets asked (.ok shown) → Printout asked offsets (n + 1) later texts ends →
      Printout asked offsets n (s :: later) (" ".intercalate (s!"#{n}" :: shown) :: texts) ends
  | fails : s.Reads offsets asked (.failed fault) →
      Printout asked offsets n (s :: later) [] (some (.driver fault))

def wanted (limit : Option Nat) (stops : List Stop) : List Stop :=
  match limit with
  | none => stops
  | some n => stops.take n

def asked (o : CommandLine.Options) : List String :=
  match o.fields with
  | [] => ["evt.num", "evt.time", "evt.source", "evt.plugininfo"]
  | given => given

section Runs
variable {clock : Nat → Nat} {t : Nat} {d d' : Driver BundledSource} {h h' : Host Bundled} {p : Dump}
  {s : Source BundledSource} {stops : List Stop} {e : EventHandle}

theorem wanted_nil (limit : Option Nat) : wanted limit [] = [] := by
  cases limit with
  | none => rfl
  | some n => exact List.take_nil

theorem wanted_cons {limit : Option Nat} {printed : Nat} (s : Stop) (later : List Stop)
    (goes : ∀ n, limit = some n → printed < n) :
    wanted (limit.map (· - printed)) (s :: later) =
      s :: wanted (limit.map (· - (printed + 1))) later := by
  cases limit with
  | none => rfl
  | some n =>
    have more : n - printed = n - (printed + 1) + 1 := by
      have := goes n rfl
      omega
    simp only [Option.map_some, wanted, more, List.take_succ_cons]

theorem more_of_incomplete (goes : p.isComplete = false) : ∀ n, p.limit = some n → p.printed < n := by
  intro n given
  simpa [isComplete, given] using goes

/-- A state of the program that prints the rest of the stream of a driver. -/
structure Prints.Rest (clock : Nat → Nat) (t : Nat) (p : Dump) (n : Nat) (stops : List Stop)
    (attempts : Nat) (written : List Write) (texts : List String) (ends : Option Failure) : Prop where
  prints : Prints clock t p written ends
  printout : Printout p.fields p.offsets n (wanted (p.limit.map (· - p.printed)) stops) texts ends
  texts : Write.texts written = texts.map (· ++ "\n")
  quiet : Quiet (Write.logged written)
  writes : (∀ t, clock t = p.host.now) → ∀ fuel, attempts < fuel → writes fuel p = (written, ends)

/-- A program that has printed as many lines as were asked for does not ask for more events. -/
theorem advance_of_complete (complete : p.isComplete = true) (driver : Driver BundledSource)
    (host : Host Bundled) :
    ({ p with driver, host } : Dump).advance = .ended none { p with driver, host } :=
  if_pos complete

theorem atTime_of_eq {now : Nat} (still : now = p.host.now) : p.atTime now = p := by
  subst still
  rfl

theorem writes_of_ended {last : Dump} {ends : Option Failure} (step : p.advance = .ended ends last)
    (n : Nat) : writes (n + 1) p = (p.written, ends) := by
  simp only [writes, step]

theorem writes_of_next {next : Dump} (step : p.advance.next? = some next) (n : Nat) :
    writes (n + 1) p = (p.written ++ (writes n next).1, (writes n next).2) := by
  rw [writes]
  cases advanced : p.advance with
  | printed line next' | waiting next' =>
    rw [advanced] at step
    cases step
    rfl
  | ended ends last =>
    rw [advanced] at step
    cases step

namespace Prints.Rest
variable {n attempts left batches : Nat} {written : List Write} {texts : List String}
  {ends : Option Failure} {driver : Driver BundledSource} {host : Host Bundled}
  (quiet : Quiet (Write.logged (p.atTime (clock t)).written))
include quiet

theorem stopped {last : Dump} (step : (p.atTime (clock t)).advance = .ended ends last)
    (printout : Printout p.fields p.offsets n (wanted (p.limit.map (· - p.printed)) stops) [] ends) :
    Rest clock t p n stops attempts (p.atTime (clock t)).written [] ends where
  prints := .ended step
  printout := printout
  texts := by
    rw [texts_written, step]
    rfl
  quiet := quiet
  writes still fuel enough := by
    obtain ⟨more, rfl⟩ := Nat.exists_eq_add_one_of_ne_zero (Nat.ne_zero_of_lt enough)
    rw [atTime_of_eq (still t)] at step ⊢
    exact writes_of_ended step more

theorem of_complete (complete : p.isComplete = true) (n : Nat) (stops : List Stop) (attempts : Nat) :
    Rest clock t p n stops attempts (p.atTime (clock t)).written [] none := by
  refine stopped quiet (advance_of_complete complete p.driver _) ?_
  have nothing : wanted (p.limit.map (· - p.printed)) stops = [] := by
    unfold isComplete at complete
    split at complete
    · rename_i limit given
      have reached : limit - p.printed = 0 := Nat.sub_eq_zero_of_le (by simpa using complete)
      rw [given, Option.map_some, reached]
      rfl
    · cases complete
  rw [nothing]
  exact .done

theorem goes {next : Dump} {m : Nat} {lines : List String} {later : List Stop}
    (step : (p.atTime (clock t)).advance.next? = some next) (now : next.host.now = clock t)
    (less : left < attempts) (rest : Rest clock (t + 1) next m later left written texts ends)
    (shown : Write.texts (p.atTime (clock t)).written = lines.map (· ++ "\n"))
    (printout : Printout p.fields p.offsets n (wanted (p.limit.map (· - p.printed)) stops)
      (lines ++ texts) ends) :
    Rest clock t p n stops attempts ((p.atTime (clock t)).written ++ written) (lines ++ texts) ends where
  prints := .goes step rest.prints
  printout := printout
  texts := by rw [Write.texts_append, shown, rest.texts, List.map_append]
  quiet := by
    rw [Write.logged_append]
    exact Log.quiet_append.mpr ⟨quiet, rest.quiet⟩
  writes still fuel enough := by
    obtain ⟨more, rfl⟩ := Nat.exists_eq_add_one_of_ne_zero (Nat.ne_zero_of_lt enough)
    have still' : ∀ t, clock t = next.host.now := fun t' => by rw [still t', now, still t]
    have later := rest.writes still' more (Nat.lt_of_lt_of_le less (Nat.le_of_lt_succ enough))
    rw [atTime_of_eq (still t)] at step ⊢
    rw [writes_of_next step, later]

theorem waiting (step : (p.atTime (clock t)).advance = .waiting { p with driver, host, batches })
    (now : host.now = clock t) (less : left < attempts)
    (rest : Rest clock (t + 1) { p with driver, host, batches } n stops left written texts ends) :
    Rest clock t p n stops attempts ((p.atTime (clock t)).written ++ written) texts ends := by
  have silent : Write.texts (p.atTime (clock t)).written = [].map (· ++ "\n") := by
    rw [texts_written, step]
    rfl
  exact goes quiet (congrArg Progress.next? step) now less rest silent rest.printout

theorem printed {s : Stop} {shown : List String} (incomplete : p.isComplete = false)
    (reads : s.Reads p.offsets p.fields (.ok shown))
    (step : (p.atTime (clock t)).advance = .printed (" ".intercalate (s!"#{n}" :: shown))
      { p with driver, host, batches, printed := p.printed + 1 })
    (now : host.now = clock t) (less : left < attempts)
    (rest : Rest clock (t + 1) { p with driver, host, batches, printed := p.printed + 1 } (n + 1) stops
      left written texts ends) :
    Rest clock t p n (s :: stops) attempts ((p.atTime (clock t)).written ++ written)
      (" ".intercalate (s!"#{n}" :: shown) :: texts) ends := by
  have line : Write.texts (p.atTime (clock t)).written =
      [" ".intercalate (s!"#{n}" :: shown)].map (· ++ "\n") := by
    rw [texts_written, step]
    rfl
  refine goes quiet (congrArg Progress.next? step) now less rest line ?_
  rw [wanted_cons s stops (more_of_incomplete incomplete)]
  exact .line reads rest.printout

end Prints.Rest

theorem advance_of_next {now : Nat} {status : Status} {driver : Driver BundledSource}
    {host : Host Bundled} (goes : p.isComplete = false)
    (stepped : p.driver.next (p.host.atTime now) = (.ok (status, e), driver, host)) :
    ∃ batches, (p.atTime now).advance = match status with
      | .timeout => .waiting { p with driver, host, batches }
      | .eof => .ended none { p with driver, host, batches }
      | .error => .ended (some (.interrupted p.printed)) { p with driver, host, batches }
      | .ok =>
        match ({ p with driver, host, batches } : Dump).line e with
        | (.ok text, p) => .printed text { p with printed := p.printed + 1 }
        | (.failed fault, p) => .ended (some (.driver fault)) p
        | (.panicked panic, p) => .ended (some (.panicked panic)) p := by
  have goes' : (p.atTime now).isComplete = false := goes
  have stepped' : (p.atTime now).driver.next (p.atTime now).host = (.ok (status, e), driver, host) :=
    stepped
  refine ⟨(p.atTime now).driver.engine.batchesAfter (p.atTime now).host p.batches, ?_⟩
  simp only [advance, goes', stepped', Bool.false_eq_true, if_false]
  cases status <;> rfl

theorem atTime_quiet (mirrors : d.Mirrors h p.driver p.host) (streaming : d.Streaming s) (now : Nat) :
    Quiet (Write.logged (p.atTime now).written) := by
  have streaming' : (p.atTime now).driver.Streaming s := mirrors.streaming streaming
  exact written_quiet streaming'

/-- A step with an event prints its line, or ends with the fault of one of its fields. -/
theorem rest_of_event {n attempts left : Nat} {driver : Driver BundledSource} {host : Host Bundled}
    (goes : p.isComplete = false)
    (own : p.driver.next (p.host.atTime (clock t)) = (.ok (.ok, e), driver, host))
    (quiet : Quiet (Write.logged (p.atTime (clock t)).written))
    (named : e.seq = some n) (mirrors : d'.Mirrors h' driver host) (now : host.now = clock t)
    (less : left < attempts)
    (later : ∀ driver' host' batches, d'.Mirrors h' driver' host' → ∃ written texts ends,
      Prints.Rest clock (t + 1)
        { p with driver := driver', host := host', batches, printed := p.printed + 1 } (n + 1) stops
        left written texts ends) :
    ∃ written texts ends,
      Prints.Rest clock t p n (⟨d', h', e⟩ :: stops) attempts written texts ends := by
  obtain ⟨batches, step⟩ := advance_of_next goes own
  have beside : Mirrors { p with driver, host, batches } d' h' { p with driver, host, batches } :=
    ⟨mirrors, rfl⟩
  obtain ⟨answer, reads, line, mirrors', same⟩ := beside.line (s := ⟨d', h', e⟩) named
  rcases shown : ({ p with driver, host, batches } : Dump).line e with ⟨result, p'⟩
  simp only [shown] at step line mirrors' same
  subst line
  cases reads.calm with
  | ok =>
    rw [same] at step
    obtain ⟨written, texts, ends, rest⟩ := later _ _ batches mirrors'
    have now' : p'.host.now = clock t := by rw [← mirrors'.host.now, mirrors.host.now, now]
    exact ⟨_, _, _, .printed quiet goes reads step now' less rest⟩
  | failed =>
    refine ⟨_, [], some _, .stopped quiet step ?_⟩
    rw [wanted_cons _ _ (more_of_incomplete goes)]
    exact .fails reads

/-- The program beside a driver that delivers the rest of its stream prints the rest of its lines. -/
theorem prints_delivered (delivers : d.Delivers clock t h stops) (streaming : d.Streaming s)
    (mirrors : d.Mirrors h p.driver p.host) :
    ∃ written texts ends,
      Prints.Rest clock t p d.engine.nextNum stops s.attempts written texts ends := by
  induction delivers generalizing p s with
  | eof stepped =>
    cases goes : p.isComplete with
    | true => exact ⟨_, _, _, .of_complete (atTime_quiet mirrors streaming _) goes _ _ _⟩
    | false =>
      obtain ⟨driver, host, own, mirrors', now⟩ := mirrors.steps stepped
      obtain ⟨batches, step⟩ := advance_of_next goes own
      refine ⟨_, [], none, .stopped (atTime_quiet mirrors streaming _) step ?_⟩
      rw [wanted_nil]
      exact .done
  | timeout stepped later ih =>
    cases goes : p.isComplete with
    | true => exact ⟨_, _, _, .of_complete (atTime_quiet mirrors streaming _) goes _ _ _⟩
    | false =>
      obtain ⟨driver, host, own, mirrors', now⟩ := mirrors.steps stepped
      obtain ⟨batches, step⟩ := advance_of_next goes own
      cases streaming.proceeds stepped with
      | timeout streaming' less same =>
        obtain ⟨written, texts, ends, rest⟩ :=
          ih (p := { p with driver, host, batches }) streaming' mirrors'
        rw [same] at rest
        exact ⟨_, texts, ends, rest.waiting (atTime_quiet mirrors streaming _) step now less⟩
  | event stepped later ih =>
    cases goes : p.isComplete with
    | true => exact ⟨_, _, _, .of_complete (atTime_quiet mirrors streaming _) goes _ _ _⟩
    | false =>
      obtain ⟨driver, host, own, mirrors', now⟩ := mirrors.steps stepped
      cases streaming.proceeds stepped with
      | event streaming' less used =>
        refine rest_of_event goes own (atTime_quiet mirrors streaming _) rfl mirrors' now less ?_
        intro driver' host' batches mirrors''
        rw [← used]
        exact ih streaming' mirrors''

end Runs

/-! ## The whole program -/

section Printouts
variable {fields : List String} {offsets : Bool} {n : Nat} {stops : List Stop} {texts : List String}
  {ends : Option Failure}

theorem Printout.length_eq (printout : Printout fields offsets n stops texts ends)
    (complete : ends = none) : texts.length = stops.length := by
  induction printout with
  | done => rfl
  | line _ _ ih => rw [List.length_cons, List.length_cons, ih complete]
  | fails => cases complete

end Printouts

theorem fields_ofSession (o : CommandLine.Options) (path : String) (s : Session) :
    (ofSession o path s).fields = asked o := by
  simp only [ofSession, asked]
  cases o.fields <;> rfl

theorem Failure.code_ne_zero (f : Failure) : f.code ≠ 0 := by
  cases f <;> simp [code]

/-- Whatever subscriber there is, a run whose log is off is one whose log is not written. -/
theorem runLogged_of_off (log : Log.Subscriber) (files : Files) {environment : Environment}
    (arguments : List String) (off : environment.lookup "INSPECT_LOG" = some "off") :
    runLogged log files environment arguments = run files environment arguments := by
  have same (level : String) (writes : List Write) :
      log.shown (log.filter environment level) 0 writes =
        Log.Subscriber.silent.shown (Log.Subscriber.silent.filter environment level) 0 writes := by
    rw [Log.Subscriber.shown_eq_texts fun e _ => log.mute_of_off level off e,
      Log.Subscriber.shown_eq_texts fun _ _ => rfl]
  simp only [run, runLogged, same]

/-- A run shows what the program writes that it sets up, after what is logged meanwhile, and tells by its
code whether it failed. -/
theorem runLogged_output {files : Files} {environment : Environment} {arguments : List String}
    {i : CommandLine.Invocation} {settings : Config.Settings} {told : List Log.Entry} {d : Dump}
    {written : List Write} {ends : Option Failure} (log : Log.Subscriber)
    (read : CommandLine.read arguments = .ok i)
    (loaded : loadSettings files environment i.options = .ok settings)
    (ready : setUp files environment settings i [] = (.ok (.dump d), told))
    (output : d.output = (written, ends)) :
    (runLogged log files environment arguments).output =
        String.join (log.shown (log.filter environment settings.logLevel) 0
          (Write.ofLog told ++ written)) ∧
      ((runLogged log files environment arguments).code = 0 ↔ ends = none) := by
  have ending : runLogged log files environment arguments =
      .ending (String.join (log.shown (log.filter environment settings.logLevel) 0
        (Write.ofLog told ++ written))) ends := by
    simp only [runLogged, read, loaded, perform, ready, output]
  rw [ending]
  cases ends with
  | none => exact ⟨rfl, iff_of_true rfl rfl⟩
  | some why => exact ⟨rfl, iff_of_false why.code_ne_zero (by simp)⟩

/-- What the program writes once it is set up, at whatever times it asks for events: for each of the
first events of its stream, as many as are asked for, one line with its number and a part for each
field, in order. A step without an event prints nothing. The first event with a field that cannot be
extracted, other than for lack of a value, ends the program, which then has printed the lines before
and fails. All else that it writes is its log, of which a filter that lets only warnings pass shows
nothing. If no line is asked for, it ends with its driver and its process as they were. -/
theorem run_prints_stream (log : Log.Subscriber) {files : Files} {environment : Environment}
    {arguments : List String} {i : CommandLine.Invocation} {settings : Config.Settings}
    {told : List Log.Entry} {d : Dump} (read : CommandLine.read arguments = .ok i)
    (loaded : loadSettings files environment i.options = .ok settings)
    (ready : setUp files environment settings i [] = (.ok (.dump d), told)) :
    let filter := log.filter environment settings.logLevel
    let result := runLogged log files environment arguments
    (∀ clock, ∃ stops written texts ends, d.driver.Delivers clock 0 d.host stops ∧
      Printout (asked i.options) i.options.offsets 0 (wanted i.options.limit stops) texts ends ∧
      (ends = none → texts.length = (wanted i.options.limit stops).length) ∧
      (∀ written' ends', Prints clock 0 d written' ends' ↔ written' = written ∧ ends' = ends) ∧
      Write.texts written = texts.map (· ++ "\n") ∧
      ((∀ t, clock t = d.host.now) →
        result.output = String.join (log.shown filter 0 (Write.ofLog told ++ written)) ∧
        (log.WarnsOnly filter → result.output = String.join (texts.map (· ++ "\n"))) ∧
        (result.code = 0 ↔ ends = none))) ∧
    (i.options.limit = some 0 →
      ∀ driver host, ({ d with driver, host } : Dump).advance = .ended none { d with driver, host }) := by
  intro filter result
  obtain ⟨path, s, rfl, ⟨source, streaming⟩, first, coherent⟩ := setUp_atStart ready
  have before : Quiet told := by
    have hushed := setUp_hushed files environment settings i [] Log.quiet_nil
    rwa [ready] at hushed
  constructor
  · intro clock
    have mirrors : s.driver.Mirrors s.host s.driver s.host :=
      .refl Plugin.unobtrusive_bundled coherent s.host
    obtain ⟨stops, delivers⟩ := streaming.delivers clock 0 s.host
    obtain ⟨written, texts, ends, prints, printout, same, quiet, writes⟩ :=
      prints_delivered (p := ofSession i.options path s) delivers streaming mirrors
    have all : (ofSession i.options path s).limit.map (· - (ofSession i.options path s).printed) =
        i.options.limit := by simp [ofSession]
    rw [fields_ofSession, all, first] at printout
    refine ⟨stops, written, texts, ends, delivers, printout, printout.length_eq, ?_, same, ?_⟩
    · intro written' ends'
      constructor
      · exact prints.unique
      · rintro ⟨rfl, rfl⟩
        exact prints
    · intro still
      have output : (ofSession i.options path s).output = (written, ends) := by
        have opened : (ofSession i.options path s).driver.engine.source = some source :=
          streaming.source
        unfold Dump.output
        rw [opened]
        exact writes still _ source.attempts_lt_steps
      obtain ⟨shown, code⟩ := runLogged_output log read loaded ready output
      refine ⟨shown, ?_, code⟩
      intro only
      have hushed : Quiet (Write.logged (Write.ofLog told ++ written)) := by
        rw [Write.logged_append, Write.logged_ofLog]
        exact Log.quiet_append.mpr ⟨before, quiet⟩
      rw [shown, only.shown_eq hushed, Write.texts_append, Write.texts_ofLog, List.nil_append, same]
  · intro none driver host
    refine advance_of_complete ?_ driver host
    have given : (ofSession i.options path s).limit = some 0 := none
    simp [isComplete, given]

def Task.isDump : Task → Bool
  | .listFields _ => false
  | .dump _ => true

theorem exists_dump {made : Except Failure Task × List Log.Entry}
    (found : made.1.toOption.any Task.isDump = true) : ∃ d told, made = (.ok (.dump d), told) := by
  obtain ⟨_ | _ | d, told⟩ := made
  · cases found
  · cases found
  · exact ⟨d, told, rfl⟩

/-- The first two of three ticks, with a step without an event between them. -/
theorem run_prints_two_ticks :
    let arguments := ["--limit", "2", "plugin", "test_source", "--offsets", "--field", "test.tick",
      "--field", "platform.os"]
    let files : Files := fun _ => .error .notFound
    let environment : Environment :=
      ⟨fun name => if name = "INSPECT_LOG" then some "off" else none, none⟩
    let log := Log.Subscriber.plain fun _ => "2024-01-01T00:00:00.000000Z"
    ∃ i told d stops written texts, CommandLine.read arguments = .ok i ∧
      loadSettings files environment i.options = .ok Config.Settings.default ∧
      setUp files environment Config.Settings.default i [] = (.ok (.dump d), told) ∧
      d.driver.Delivers (fun _ => d.host.now) 0 d.host stops ∧
      Printout ["test.tick", "platform.os"] true 0 (stops.take 2) texts none ∧
      texts.length = (stops.take 2).length ∧ Prints (fun _ => d.host.now) 0 d written none ∧
      Write.texts written = texts.map (· ++ "\n") ∧
      (runLogged log files environment arguments).output =
        "#0 test.tick=0 [5+1] platform.os=<NA>\n#1 test.tick=1 [5+1] platform.os=<NA>\n" ∧
      String.join (texts.map (· ++ "\n")) =
        "#0 test.tick=0 [5+1] platform.os=<NA>\n#1 test.tick=1 [5+1] platform.os=<NA>\n" := by
  intro arguments files environment log
  let i : CommandLine.Invocation :=
    ⟨⟨none, ["test.tick", "platform.os"], [], true, some 2, false⟩, .plugin "test_source" "" "" false⟩
  have read : CommandLine.read arguments = .ok i := rfl
  have loaded : loadSettings files environment i.options = .ok Config.Settings.default := rfl
  obtain ⟨d, told, ready⟩ : ∃ d told,
      setUp files environment Config.Settings.default i [] = (.ok (.dump d), told) :=
    exists_dump (by decide +kernel)
  have result : runLogged log files environment arguments =
      ⟨0, "#0 test.tick=0 [5+1] platform.os=<NA>\n#1 test.tick=1 [5+1] platform.os=<NA>\n", ""⟩ := by
    decide +kernel
  obtain ⟨stops, written, texts, ends, delivers, printout, length, prints, same, printed⟩ :=
    (run_prints_stream log read loaded ready).1 fun _ => d.host.now
  obtain ⟨shown, silenced, code⟩ := printed fun _ => rfl
  have output := silenced (Log.Subscriber.warnsOnly_of_off _ rfl)
  rw [result] at output code
  obtain rfl : ends = none := code.mp rfl
  exact ⟨i, told, d, stops, written, texts, read, loaded, ready, delivers, printout, length rfl,
    (prints _ _).mpr ⟨rfl, rfl⟩, same, by rw [result], output.symm⟩

example :
    let log := Log.Subscriber.plain fun _ => "now"
    let arguments := ["--limit", "1", "plugin", "countdown", "--field", "evt.num"]
    (runLogged log (fun _ => .error .notFound) .bare arguments).output = String.join [
      "now  INFO Registered plugin countdown with capabilities \x7bEventSourcing\x7d\n",
      "now  INFO Driver 1 registered plugin countdown 0.1.0\n",
      "now  INFO Opened plugin source countdown (countdown), platform metadata: false\n",
      "now  INFO Reading from plugin countdown\n", "#0 evt.num=0\n",
      "now  INFO Printed 1 events\n", "now  INFO Stopping capture from countdown\n"] := by
  decide +kernel

end Dump

end EventProbe
