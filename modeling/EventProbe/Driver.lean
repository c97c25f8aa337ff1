import EventProbe.Collector
import EventProbe.Config.Load
import EventProbe.Extractors

/-!
# The driver

A driver owns an engine, the extractors of its fields and a collector of metrics. It captures from
one source in its life. Every event it delivers is named by a handle, which is good until the next
step and on this driver only.
-/

namespace EventProbe

inductive CaptureState where
  | idle
  | capturing
  deriving DecidableEq, Repr

def CaptureState.name : CaptureState → String
  | .idle => "Idle"
  | .capturing => "Capturing"

def CaptureState.mayBecome : CaptureState → CaptureState → Bool
  | .idle, .capturing => true
  | _, _ => false

inductive DriverFault where
  | initialization (fault : RegisterFault)
  | opening (fault : OpenFault)
  | io (fault : IoFault)
  | invalidTransition (current target : CaptureState)
  /-- There is no extractor for a field. -/
  | invalidField (fault : ResolveFault)
  | nullEvent
  /-- The handle does not name the current event of this driver. -/
  | staleEvent
  | nullValue (field : String)
  | extraction (field message : String)
  | config (fault : Config.Fault)
  /-- The engine is in a state it should not be in. -/
  | engine (fault : OpenFault)
  deriving DecidableEq, Repr

namespace DriverFault

def message : DriverFault → String
  | initialization (.refused _ reason) => s!"Plugin initialization failed: {reason}"
  | initialization fault => s!"Plugin initialization failed: {fault.message}"
  | opening fault => s!"Failed to open event source: {fault.message}"
  | io fault => s!"I/O error: {fault.message}"
  | invalidTransition current target =>
    s!"Invalid state transition: {current.name} -> {target.name}"
  | invalidField fault => s!"Invalid field: {fault.message}"
  | nullEvent => "Null event handle"
  | staleEvent => "Stale event handle"
  | nullValue field => s!"No value for field {field}"
  | extraction field message => s!"Failed to extract {field}: {message}"
  | config fault => s!"Configuration error: {fault.message}"
  | engine fault => s!"Engine error: {fault.message}"

def ofOpen : OpenFault → DriverFault
  | .io fault => .io fault
  | .alreadyCapturing => .engine .alreadyCapturing
  | fault => .opening fault

end DriverFault

/-- A name for an event: the driver that delivered it and its position in the stream. The name of no
event has no position. -/
structure EventHandle where
  driver : Nat
  seq : Option Nat
  deriving DecidableEq, Repr

def EventHandle.isNull (e : EventHandle) : Bool :=
  e.seq.isNone

structure Driver (ι : Type) where
  /-- What tells it from the other drivers of the process. -/
  id : Nat
  engine : Engine ι
  extractors : Extractors
  collector : Collector
  state : CaptureState

namespace Driver

def withSettings (h : Host π) (s : Config.Settings) : Except DriverFault (Driver ι) × Host π :=
  match s.validate with
  | .error reason => (.error (.config (.invalid reason)), h)
  | .ok _ =>
    let h := { h with drivers := h.drivers + 1 }
    (.ok ⟨h.drivers, Engine.fresh s.engine.hostname, Extractors.fresh, Collector.fresh s.metrics,
      .idle⟩, h)

def make (h : Host π) : Except DriverFault (Driver ι) × Host π :=
  withSettings h Config.Settings.default

def register (d : Driver ι) (h : Host π) (plugin : Descriptor π) (config : String) :
    Outcome DriverFault Handle × Driver ι × Host π :=
  let (result, engine, h) := d.engine.register h plugin config
  (result.mapReason .initialization, { d with engine }, h)

/-- Makes the fields of a plugin available for events of a source. A plugin that extracts no fields
or does not read the source adds nothing. -/
def addExtractors (d : Driver ι) (p : Handle) (source : String) : Driver ι :=
  if p.manifest.can .fieldExtraction && p.manifest.reads source then
    let (_, extractors) := d.extractors.add Factory.generic
    match Factory.ofPlugin p with
    | some factory => { d with extractors := (extractors.add factory).2 }
    | none => { d with extractors }
  else d

def beginCapture (d : Driver ι) : Except DriverFault Unit :=
  if d.state.mayBecome .capturing then .ok () else .error (.invalidTransition d.state .capturing)

def openCapture (d : Driver ι) (file : Except IoFault (List UInt8)) :
    Except DriverFault Unit × Driver ι :=
  match d.beginCapture with
  | .error fault => (.error fault, d)
  | .ok _ =>
    match d.engine.openCapture file with
    | (.error fault, engine) => (.error (.ofOpen fault), { d with engine })
    | (.ok _, engine) => (.ok (), { d with engine, state := .capturing })

variable [Plugin π ι]

def openPlugin (d : Driver ι) (h : Host π) (name params : String) (platform : Bool) :
    Outcome DriverFault Unit × Driver ι × Host π :=
  match d.beginCapture with
  | .error fault => (.failed fault, d, h)
  | .ok _ =>
    match d.engine.openPlugin h name params platform with
    | (.failed fault, engine, h) => (.failed (.ofOpen fault), { d with engine }, h)
    | (.panicked p, engine, h) => (.panicked p, { d with engine }, h)
    | (.ok _, engine, h) => (.ok (), { d with engine, state := .capturing }, h)

def next (d : Driver ι) (h : Host π) :
    Except Panic (Status × EventHandle) × Driver ι × Host π :=
  match d.state with
  | .idle => (.ok (.error, ⟨d.id, none⟩), d, h)
  | .capturing =>
    let (result, engine, h) := d.engine.next h
    let d := { d with engine }
    match result with
    | .error panic => (.error panic, d, h)
    | .ok .ok => (.ok (.ok, ⟨d.id, engine.current.map (·.num)⟩), d, h)
    | .ok status => (.ok (status, ⟨d.id, none⟩), d, h)

/-- The event that a handle names. -/
def event (d : Driver ι) (handle : EventHandle) : Except DriverFault Event :=
  match handle.seq with
  | none => .error .nullEvent
  | some seq =>
    if handle.driver ≠ d.id then .error .staleEvent
    else match d.engine.current with
      | some e => if e.num = seq then .ok e else .error .staleEvent
      | none => .error .staleEvent

def renderField (h : Host π) (x : Extractor) (field : String) (e : Event) :
    Outcome DriverFault String × Host π :=
  match x.render h e with
  | (.failed message, h) => (.failed (.extraction field message), h)
  | (.panicked p, h) => (.panicked p, h)
  | (.ok none, h) => (.failed (.nullValue field), h)
  | (.ok (some text), h) => (.ok text, h)

/-- The byte range of the first value of a field of an event; an empty one at the start if there is
none. -/
def locateField (h : Host π) (x : Extractor) (field : String) (e : Event) :
    Outcome DriverFault Range × Host π :=
  match x.extractWithOffsets h e with
  | (.failed message, h) => (.failed (.extraction field message), h)
  | (.panicked p, h) => (.panicked p, h)
  | (.ok values, h) => (.ok ((values.head?.bind (·.range)).getD ⟨0, 0⟩), h)

def prepare (d : Driver ι) (field : String) (handle : EventHandle) :
    Except DriverFault (Extractor × Event) × Driver ι :=
  let (found, extractors) := d.extractors.resolve field
  let d := { d with extractors }
  match found with
  | .error fault => (.error (.invalidField fault), d)
  | .ok x => ((d.event handle).map fun e => (x, e), d)

/-- The text of a field of the event that a handle names. -/
def extractText (d : Driver ι) (h : Host π) (field : String) (handle : EventHandle) :
    Outcome DriverFault String × Driver ι × Host π :=
  match d.prepare field handle with
  | (.error fault, d) => (.failed fault, d, h)
  | (.ok (x, e), d) =>
    let (text, h) := renderField h x field e
    (text, d, h)

/-- The text of a field of the event that a handle names, and the byte range of its first value. -/
def extractWithOffsets (d : Driver ι) (h : Host π) (field : String) (handle : EventHandle) :
    Outcome DriverFault (String × Range) × Driver ι × Host π :=
  match d.prepare field handle with
  | (.error fault, d) => (.failed fault, d, h)
  | (.ok (x, e), d) =>
    match renderField h x field e with
    | (.failed fault, h) => (.failed fault, d, h)
    | (.panicked p, h) => (.panicked p, d, h)
    | (.ok text, h) =>
      let (range, h) := locateField h x field e
      (range.map fun r => (text, r), d, h)

def metrics (d : Driver ι) (h : Host π) :
    Except Panic (List (String × Nat)) × Driver ι × Host π :=
  let (result, collector, h) := d.collector.collect d.engine h
  (result.map fun _ => collector.words, { d with collector }, h)

/-- Ends a driver: its extractors go, and its engine closes the source. -/
def drop (d : Driver ι) (h : Host π) : Driver ι × Host π :=
  let (engine, h) := d.engine.shutdown h
  ({ d with extractors := d.extractors.clear, engine }, h)

end Driver

end EventProbe
