import EventProbe.Driver
import EventProbe.Log.Subscriber
import EventProbe.Plugins.Bundled

/-!
# Log entries of operations

What an operation logs, in order, told from the state before it. A source does not know the path of the
file that it replays, nor how many batches it has delivered; both are given where they are logged.
-/

namespace EventProbe

open Log (Entry)

/-- The text of an instant as it is logged, with blanks around the time of day. -/
def Instant.spaced (t : Instant) : String :=
  String.ofList ((t.text .shortest).toList.flatMap fun c =>
    if c = 'T' then [' '] else if c = 'Z' then " UTC".toList else [c])

/-! ## Sources -/

namespace Source

def title (path : String) : Source ι → String
  | .capture _ => path
  | .plugin stream => stream.source

def closeLog : Source ι → List Entry
  | .capture _ => []
  | .plugin stream => [.debug .source s!"Closing source instance of plugin {stream.owner.name}"]

variable [Plugin π ι]

/-- The plugin that is asked for a batch before the next event, and its answer. -/
def fetch (s : Source ι) (h : Host π) : Option (Handle × Except Panic Batch) :=
  match s with
  | .plugin ⟨owner, _, state, []⟩ => some (owner, (h.nextBatch owner state).1)
  | _ => none

/-- The number of delivered batches after an event was asked for; empty ones count. -/
def batchesAfter (s : Source ι) (h : Host π) (batches : Nat) : Nat :=
  match s.fetch h with
  | some (_, .ok (.events _)) => batches + 1
  | _ => batches

def fetchLog (s : Source ι) (h : Host π) (batches : Nat) : List Entry :=
  match s.fetch h with
  | some (owner, .ok (.events (e :: rest))) =>
    let size := (e :: rest).length
    [.debug .source s!"Plugin {owner.name} delivered batch {batches + 1} with {size} events"]
  | some (owner, .ok (.failed reason)) =>
    [.warn .source s!"Plugin {owner.name} source failed: {reason}"]
  | _ => []

end Source

/-! ## Engines -/

namespace Engine

def stopLog (g : Engine ι) (path : String) : List Entry :=
  match g.source with
  | none => []
  | some source =>
    .info .engine s!"Stopping capture from {source.title path}" :: source.closeLog

def shutdownLog (g : Engine ι) (path : String) : List Entry :=
  let plugins := g.registry.plugins
  g.stopLog path ++
    if plugins.isEmpty then [] else [.debug .engine s!"Releasing {plugins.length} plugins"]

def openCaptureLog (g : Engine ι) (path : String) (file : Except IoFault (List UInt8)) :
    List Entry :=
  if g.isCapturing then []
  else match file with
    | .error _ => []
    | .ok bytes =>
      match Capture.read bytes with
      | .error _ => []
      | .ok contents =>
        [.debug .capture s!"Loaded {contents.records.length} records from {path}",
          .debug .source s!"Capture {path} was recorded at {contents.header.createdAt.spaced}",
          .info .engine s!"Opened capture file {path}"]

variable [Plugin π ι]

def openPluginLog (g : Engine ι) (h : Host π) (name params : String) (platform : Bool) :
    List Entry :=
  match g.openPlugin h name params platform with
  | (.ok _, opened, _) =>
    let source := (opened.source.map (Source.title "")).getD ""
    [.info .engine s!"Opened plugin source {name} ({source}), platform metadata: {platform}"]
  | _ => []

/-- An event that a plugin refuses is logged. -/
def offerLog (h : Host π) (e : Event) : List Handle → List Entry
  | [] => []
  | p :: rest =>
    if p.manifest.can .eventParsing && p.manifest.reads e.source then
      match h.parse p e with
      | (.ok _, h) => offerLog h e rest
      | (.failed reason, _) =>
        [.warn .engine s!"Plugin {p.name} failed to parse event {e.num}: {reason}"]
      | (.panicked _, _) => []
    else offerLog h e rest

/-- The source that the next step takes an event from. -/
def asked (g : Engine ι) : Option (Source ι) :=
  match g.finished with
  | some _ => none
  | none => g.source

def nextLog (g : Engine ι) (h : Host π) (path : String) (batches : Nat) : List Entry :=
  match g.asked with
  | none => []
  | some source =>
    let title := source.title path
    source.fetchLog h batches ++ match source.pull h with
      | (.ok (.event raw), _, h) => offerLog h (g.number raw) g.registry.plugins
      | (.ok .eof, _, _) => [.debug .engine s!"Source {title} reached end of stream"]
      | (.ok (.failed reason), _, _) => [.warn .engine s!"Source {title} failed: {reason}"]
      | _ => []

def batchesAfter (g : Engine ι) (h : Host π) (batches : Nat) : Nat :=
  match g.asked with
  | none => batches
  | some source => source.batchesAfter h batches

end Engine

/-! ## Drivers -/

def Extractors.addLog (r : Extractors) (f : Factory) : List Entry :=
  if (r.add f).1 then [.debug .extractors s!"Adding extractor factory {f.id}"] else []

namespace Driver

/-- What was logged when the driver was made. -/
def madeLog (d : Driver ι) : List Entry :=
  [.debug .engine "Creating engine in live mode", .debug .driver s!"Created driver {d.id}"]
    ++ (⟨[], []⟩ : Extractors).addLog .generic

def addExtractorsLog (d : Driver ι) (p : Handle) (source : String) : List Entry :=
  if !p.manifest.can .fieldExtraction then
    [.debug .driver s!"Plugin {p.name} does not extract fields"]
  else if !p.manifest.reads source then
    [.debug .driver s!"Plugin {p.name} is not compatible with source {source}"]
  else
    let (_, extractors) := d.extractors.add .generic
    d.extractors.addLog .generic ++ match Factory.ofPlugin p with
      | none => []
      | some factory =>
        extractors.addLog factory ++
          if (extractors.add factory).1 then
            [.info .driver s!"Added extractors of plugin {p.name} for {source}"]
          else []

def openCaptureLog (d : Driver ι) (path : String) (file : Except IoFault (List UInt8)) :
    List Entry :=
  match d.beginCapture with
  | .error _ => []
  | .ok _ => d.engine.openCaptureLog path file

def dropLog (d : Driver ι) (path : String) : List Entry :=
  d.engine.shutdownLog path ++ [.debug .driver s!"Dropped driver {d.id}"]

variable [Plugin π ι]

def openPluginLog (d : Driver ι) (h : Host π) (name params : String) (platform : Bool) :
    List Entry :=
  match d.beginCapture with
  | .error _ => []
  | .ok _ => d.engine.openPluginLog h name params platform

def nextLog (d : Driver ι) (h : Host π) (path : String) (batches : Nat) : List Entry :=
  match d.state with
  | .idle => [.warn .driver s!"Driver {d.id}: next() called before opening a source"]
  | .capturing => d.engine.nextLog h path batches

end Driver

/-! ## Bundled plugins -/

def Countdown.initLog (config : String) : List Entry :=
  match init config with
  | .ok p => [.debug .countdown s!"countdown: {p.remaining} events in batches of {p.batchSize}"]
  | _ => []

/-- What a bundled plugin itself logs when it is made. -/
def Bundled.initLog (plugin : Descriptor Bundled) (config : String) : List Entry :=
  if plugin.manifest.name = Countdown.descriptor.manifest.name then Countdown.initLog config else []

/-- A plugin that declares no capability or whose name is taken is not even made. -/
def Driver.registerLog (d : Driver BundledSource) (h : Host Bundled) (plugin : Descriptor Bundled)
    (config : String) : List Entry :=
  let m := plugin.manifest
  let made := .debug .registry s!"Initializing plugin {m.name} {m.version}"
    :: Bundled.initLog plugin config
  match (d.engine.register h plugin config).1 with
  | .failed (.noCapabilities _) | .failed (.duplicate _) => []
  | .failed (.refused ..) | .panicked _ => made
  | .ok _ =>
    made ++ [.info .registry s!"Registered plugin {m.name} with capabilities {m.capabilities.text}",
      .info .driver s!"Driver {d.id} registered plugin {m.name} {m.version}"]

end EventProbe
