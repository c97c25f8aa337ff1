import EventProbe.CommandLine.Invocation
import EventProbe.Log.Entries
import EventProbe.Text.Columns

/-!
# The dump program

Prints the fields of every event of a capture file or of a source of a bundled plugin, one line per
event. The program is a machine: it is set up from its command line and the files it names, and then
advances by one step of its driver at a time. Its log goes to the standard output as well, between the
lines.
-/

namespace EventProbe

namespace Dump

inductive Failure where
  | settings (path : String) (fault : Config.Fault)
  | capture (path : String) (fault : DriverFault)
  | driver (fault : DriverFault)
  | unknownPlugin (name : String)
  | notASource (name : String)
  /-- The stream failed after so many lines. -/
  | interrupted (printed : Nat)
  | panicked (panic : Panic)
  deriving DecidableEq, Repr

def settingsCauses : Config.Fault → List String
  | .file fault => [fault.message]
  | _ => []

def driverCauses : DriverFault → List String
  | .io fault => [fault.message]
  | .config fault => fault.message :: settingsCauses fault
  | .engine fault => [fault.message]
  | _ => []

namespace Failure

def message : Failure → String
  | settings path _ => s!"failed to load {path}"
  | capture path _ => s!"failed to open {path}"
  | driver fault => fault.message
  | unknownPlugin name =>
    let known := Text.commaSeparated (Bundled.all.map (·.manifest.name))
    s!"unknown plugin {name} (known: {known})"
  | notASource name => s!"plugin {name} is not an event source"
  | interrupted printed => s!"capture failed after {printed} events"
  | panicked panic => panic.message

/-- The faults behind a failure, each behind the one before it. -/
def causes : Failure → List String
  | settings _ fault => fault.message :: settingsCauses fault
  | capture _ fault => fault.message :: driverCauses fault
  | driver fault => driverCauses fault
  | _ => []

/-- A cause in a report: what stands before it, and its lines, the further ones below the first. -/
def causeText (label cause : String) : String :=
  let indent := String.ofList (List.replicate label.length ' ')
  label ++ String.ofList (cause.toList.flatMap fun c =>
    if c = '\n' then '\n' :: indent.toList else [c])

/-- The report of a failure. Several causes are numbered. -/
def report (f : Failure) : String :=
  let numbered (i : Nat) (cause : String) : String :=
    let number := toString i
    causeText (String.ofList (List.replicate (5 - number.length) ' ') ++ number ++ ": ") cause
  let lines := match f.causes with
    | [] => []
    | [cause] => ["", "Caused by:", causeText "    " cause]
    | causes => ["", "Caused by:"] ++ causes.mapIdx numbered
  "\n".intercalate (("Error: " ++ f.message) :: lines) ++ "\n"

def code : Failure → Nat
  | panicked _ => 101
  | _ => 1

end Failure

def defaultFields : List String := ["evt.num", "evt.time", "evt.source", "evt.plugininfo"]

/-- The listing of all fields: those of every event, then those of the plugins that have some. -/
def fieldListing : String :=
  let row (name description : String) := "  " ++ Text.aligned 24 name ++ " " ++ description
  let generic := "built-in:" :: GenericField.all.map fun f => row f.path f.description
  let bundled := Bundled.all.filter (!·.manifest.fields.isEmpty) |>.flatMap fun d =>
    (d.manifest.name ++ ":") :: d.manifest.fields.map fun f => row f.name f.description
  String.join ((generic ++ bundled).map (· ++ "\n"))

/-! ## Plugins by name -/

/-- A driver of bundled plugins in its process, and the names of the plugins it registered. -/
structure Session where
  driver : Driver BundledSource
  host : Host Bundled
  registered : List String

namespace Session

/-- Registers a bundled plugin. What a failed registration changed stays changed. -/
def register (s : Session) (name config : String) : Except Failure Handle × Session :=
  match Bundled.find? name with
  | none => (.error (.unknownPlugin name), s)
  | some plugin =>
    match s.driver.register s.host plugin config with
    | (.failed fault, driver, host) => (.error (.driver fault), { s with driver, host })
    | (.panicked panic, driver, host) => (.error (.panicked panic), { s with driver, host })
    | (.ok handle, driver, host) => (.ok handle, ⟨driver, host, s.registered ++ [name]⟩)

/-- Registers a plugin unless it is registered, and makes its fields available for a source. -/
def addExtractor (source : String) (s : Session) (name : String) : Except Failure Unit × Session :=
  if s.registered.contains name then (.ok (), s)
  else match s.register name "" with
    | (.error failure, s) => (.error failure, s)
    | (.ok handle, s) => (.ok (), { s with driver := s.driver.addExtractors handle source })

/-- Makes the fields of plugins available for a source, up to the first plugin that fails. -/
def addExtractors (s : Session) (source : String) : List String → Except Failure Unit × Session
  | [] => (.ok (), s)
  | name :: rest =>
    match s.addExtractor source name with
    | (.error failure, s) => (.error failure, s)
    | (.ok _, s) => s.addExtractors source rest

def openCapture (s : Session) (path : String) (file : Except IoFault (List UInt8)) :
    Except Failure Unit × Session :=
  match s.driver.openCapture file with
  | (.error fault, driver) => (.error (.capture path fault), { s with driver })
  | (.ok _, driver) => (.ok (), { s with driver })

def openPlugin (s : Session) (name params : String) (platform : Bool) :
    Except Failure Unit × Session :=
  match s.driver.openPlugin s.host name params platform with
  | (.failed fault, driver, host) => (.error (.driver fault), { s with driver, host })
  | (.panicked panic, driver, host) => (.error (.panicked panic), { s with driver, host })
  | (.ok _, driver, host) => (.ok (), { s with driver, host })

/-! ### What a session logs -/

def registerLog (s : Session) (name config : String) : List Log.Entry :=
  match Bundled.find? name with
  | none => []
  | some plugin => s.driver.registerLog s.host plugin config

def addExtractorLog (source : String) (s : Session) (name : String) : List Log.Entry :=
  if s.registered.contains name then [.debug .program s!"Plugin {name} already registered"]
  else s.registerLog name "" ++ match s.register name "" with
    | (.error _, _) => []
    | (.ok handle, s) => s.driver.addExtractorsLog handle source

def addExtractorsLog (s : Session) (source : String) : List String → List Log.Entry
  | [] => []
  | name :: rest => s.addExtractorLog source name ++ match s.addExtractor source name with
    | (.error _, _) => []
    | (.ok _, s) => s.addExtractorsLog source rest

/-- What is logged when a session ends before a source was opened. -/
def dropLog (s : Session) : List Log.Entry :=
  s.driver.dropLog ""

def listing (s : Session) : List Write :=
  .text fieldListing :: Write.ofLog s.dropLog

end Session

end Dump

/-- The program while it prints events. -/
structure Dump where
  driver : Driver BundledSource
  host : Host Bundled
  fields : List String
  offsets : Bool
  limit : Option Nat
  /-- Number of lines printed so far. -/
  printed : Nat
  /-- The path of the file that is replayed. -/
  path : String
  /-- Number of batches that the source delivered so far. -/
  batches : Nat

namespace Dump

/-! ## Lines -/

def part (d : Dump) (e : EventHandle) (field : String) : Outcome DriverFault String × Dump :=
  let (result, driver, host) := if d.offsets then
      let (result, driver, host) := d.driver.extractWithOffsets d.host field e
      (result.map fun (text, range) => s!"{text} [{range.start}+{range.length}]", driver, host)
    else d.driver.extractText d.host field e
  let d := { d with driver, host }
  match result with
  | .ok text => (.ok (field ++ "=" ++ text), d)
  | .failed (.nullValue _) => (.ok (field ++ "=<NA>"), d)
  | result => (result, d)

def parts (d : Dump) (e : EventHandle) : List String → Outcome DriverFault (List String) × Dump
  | [] => (.ok [], d)
  | field :: rest =>
    match d.part e field with
    | (.failed fault, d) => (.failed fault, d)
    | (.panicked panic, d) => (.panicked panic, d)
    | (.ok text, d) =>
      let (texts, d) := parts d e rest
      (texts.map (text :: ·), d)

def line (d : Dump) (e : EventHandle) : Outcome DriverFault String × Dump :=
  let (texts, d) := d.parts e d.fields
  let number := e.seq.toList.map fun seq => s!"#{seq}"
  (texts.map fun texts => " ".intercalate (number ++ texts), d)

/-! ## Running -/

/-- What a step of the program comes to. -/
inductive Progress where
  | printed (line : String) (next : Dump)
  | waiting (next : Dump)
  | ended (failure : Option Failure) (last : Dump)

def isComplete (d : Dump) : Bool :=
  match d.limit with
  | some limit => limit ≤ d.printed
  | none => false

def advance (d : Dump) : Progress :=
  if d.isComplete then .ended none d
  else
    let batches := d.driver.engine.batchesAfter d.host d.batches
    match d.driver.next d.host with
    | (.error panic, driver, host) =>
      .ended (some (.panicked panic)) { d with driver, host, batches }
    | (.ok (status, e), driver, host) =>
      let d := { d with driver, host, batches }
      match status with
      | .timeout => .waiting d
      | .eof => .ended none d
      | .error => .ended (some (.interrupted d.printed)) d
      | .ok =>
        match d.line e with
        | (.ok line, d) => .printed line { d with printed := d.printed + 1 }
        | (.failed fault, d) => .ended (some (.driver fault)) d
        | (.panicked panic, d) => .ended (some (.panicked panic)) d

def dropLog (d : Dump) : List Log.Entry :=
  d.driver.dropLog d.path

def stepLog (d : Dump) : List Log.Entry :=
  if d.isComplete then [] else d.driver.nextLog d.host d.path d.batches

/-- What the program writes of a step, after the log of the step itself. -/
def Progress.writes : Progress → List Write
  | .printed line _ => [.text (line ++ "\n")]
  | .waiting _ => []
  | .ended none d => Write.ofLog (.info .program s!"Printed {d.printed} events" :: d.dropLog)
  | .ended (some _) d => Write.ofLog d.dropLog

def written (d : Dump) : List Write :=
  Write.ofLog d.stepLog ++ d.advance.writes

/-- At most how many steps a source of a bundled plugin answers before its stream ends. -/
def sourceSteps : BundledSource → Nat
  | .inl stream => stream.remaining
  | .inr (.inr (.inr (.inl ticks))) => 2 * (ticks.count - ticks.next)
  | _ => 0

/-- At most how many steps a source answers, that at which its stream ends included. -/
def steps : Source BundledSource → Nat
  | .capture records => records.length + 1
  | .plugin stream => stream.pending.length + sourceSteps stream.state + 1

/-- What the program writes in so many steps, and the failure that it ends with. -/
def writes : Nat → Dump → List Write × Option Failure
  | 0, _ => ([], none)
  | n + 1, d =>
    match d.advance with
    | .printed _ next | .waiting next =>
      let (rest, failure) := writes n next
      (d.written ++ rest, failure)
    | .ended failure _ => (d.written, failure)

def output (d : Dump) : List Write × Option Failure :=
  writes ((d.driver.engine.source.map steps).getD 1) d

/-! ## Setting up -/

abbrev Files := String → Except IoFault (List UInt8)

inductive Task where
  | listFields (s : Session)
  | dump (d : Dump)

def loadSettings (files : Files) (environment : Environment) (o : CommandLine.Options) :
    Except Failure Config.Settings := do
  let settings ← match o.config with
    | none => .ok Config.Settings.default
    | some path =>
      (Config.loadFile environment.lookup (files path)).mapError (.settings path)
  return if o.verbose then { settings with logLevel := "debug" } else settings

/-- A part of the set-up. When it fails, what was logged so far stays. -/
abbrev SetUp (α : Type) := ExceptT Failure (StateM (List Log.Entry)) α

def tell (entries : List Log.Entry) : SetUp Unit :=
  modify (· ++ entries)

namespace Session

def fail (s : Session) (failure : Failure) : SetUp α := do
  tell s.dropLog
  throw failure

/-- Goes on with what an operation gave and with the session that it left, unless it failed. -/
def proceed (entries : List Log.Entry) (done : Except Failure α × Session) : SetUp (α × Session) := do
  tell entries
  match done with
  | (.ok a, s) => return (a, s)
  | (.error failure, s) => s.fail failure

def start (environment : Environment) (settings : Config.Settings) : SetUp Session := do
  match Driver.withSettings (Host.fresh environment) settings with
  | (.error fault, _) => throw (.driver fault)
  | (.ok driver, host) =>
    tell driver.madeLog
    return ⟨driver, host, []⟩

end Session

def ofSession (o : CommandLine.Options) (path : String) (s : Session) : Dump :=
  let fields := if o.fields.isEmpty then defaultFields else o.fields
  ⟨s.driver, s.host, fields, o.offsets, o.limit, 0, path, 0⟩

def prepare (d : Dump) (source : String) : SetUp Task := do
  let fields := "[" ++ Text.commaSeparated (d.fields.map Text.quoted) ++ "]"
  tell [.debug .program s!"Extracting {fields} for source {source}"]
  return .dump d

def setUp (files : Files) (environment : Environment) (settings : Config.Settings)
    (i : CommandLine.Invocation) : SetUp Task := do
  let extractors := i.options.extractors
  let s ← Session.start environment settings
  match i.command with
  | .fields => return .listFields s
  | .capture path source =>
    let (_, s) ← Session.proceed (s.addExtractorsLog source extractors)
      (s.addExtractors source extractors)
    let file := files path
    let (_, s) ← Session.proceed (s.driver.openCaptureLog path file) (s.openCapture path file)
    tell [.info .program s!"Replaying {path}"]
    prepare (ofSession i.options path s) source
  | .plugin name initConfig openParams platform =>
    let (handle, s) ← Session.proceed (s.registerLog name initConfig) (s.register name initConfig)
    match handle.manifest.eventSource with
    | none => s.fail (.notASource name)
    | some source =>
      tell (s.driver.addExtractorsLog handle source)
      let s := { s with driver := s.driver.addExtractors handle source }
      let (_, s) ← Session.proceed (s.addExtractorsLog source extractors)
        (s.addExtractors source extractors)
      let platform := platform || settings.engine.platformDefault
      let (_, s) ← Session.proceed (s.driver.openPluginLog s.host name openParams platform)
        (s.openPlugin name openParams platform)
      tell [.info .program s!"Reading from plugin {name}"]
      prepare (ofSession i.options "" s) source

/-! ## The whole program -/

structure Result where
  code : Nat
  output : String
  errors : String
  deriving DecidableEq, Repr

def Result.ending (output : String) : Option Failure → Result
  | none => ⟨0, output, ""⟩
  | some failure => ⟨failure.code, output, failure.report⟩

/-- The result of a command line with nothing to run. -/
def Result.stopped : CommandLine.Stop → Result
  | .page text => ⟨0, text, ""⟩
  | .version => ⟨0, CommandLine.versionText, ""⟩
  | .misuse reason => ⟨2, "", "error: " ++ reason.message ++ "\n"⟩

/-- What a run with some settings writes, and the failure that it ends with. -/
def perform (files : Files) (environment : Environment) (settings : Config.Settings)
    (i : CommandLine.Invocation) : List Write × Option Failure :=
  let (ready, told) := setUp files environment settings i []
  let (writes, failure) := match ready with
    | .error failure => ([], some failure)
    | .ok (.listFields s) => (s.listing, none)
    | .ok (.dump d) => d.output
  (Write.ofLog told ++ writes, failure)

/-- A run of the program whose log a subscriber writes. -/
def runLogged (log : Log.Subscriber) (files : Files) (environment : Environment)
    (arguments : List String) : Result :=
  match CommandLine.read arguments with
  | .error stop => .stopped stop
  | .ok invocation =>
    match loadSettings files environment invocation.options with
    | .error failure => .ending "" (some failure)
    | .ok settings =>
      let (writes, failure) := perform files environment settings invocation
      let filter := log.filter environment settings.logLevel
      .ending (String.join (log.shown filter 0 writes)) failure

/-- A run whose log is not written. -/
def run (files : Files) (environment : Environment) (arguments : List String) : Result :=
  runLogged .silent files environment arguments

end Dump

end EventProbe
