import EventProbe.IoFault
import EventProbe.Registry
import EventProbe.Source
import EventProbe.Status

/-!
# The engine

The engine captures from one source at a time and holds one current event. Every event that it takes
from the source is numbered and shown to the plugins that parse events of its source, in the order
of their registration; the first that refuses it makes it disappear.
-/

namespace EventProbe

/-- What the engine counts over its whole life. -/
structure Counters where
  events : Nat
  /-- Steps without an event. -/
  timeouts : Nat
  /-- Refused events. -/
  drops : Nat
  deriving DecidableEq, Repr

inductive OpenFault where
  | alreadyCapturing
  | pluginNotFound (name : String)
  /-- The plugin generates no events. -/
  | notASource (name : String)
  | refused (name reason : String)
  | io (fault : IoFault)
  | malformed (fault : Capture.Malformed)
  deriving DecidableEq, Repr

def OpenFault.message : OpenFault → String
  | .alreadyCapturing => "capture already started"
  | .pluginNotFound name => s!"plugin not found: {name}"
  | .notASource name => s!"plugin {name} does not provide an event source"
  | .refused name reason => s!"failed to open event source {name}: {reason}"
  | .io fault => fault.message
  | .malformed fault => fault.message

structure Engine (ι : Type) where
  /-- The host name that events carry instead of the detected one. -/
  hostname : Option String
  registry : Registry
  source : Option (Source ι)
  /-- The platform that events of the open source carry. -/
  platform : Option Platform
  current : Option Event
  nextNum : Nat
  /-- How the stream ended. -/
  finished : Option Status
  counters : Counters

namespace Engine

def fresh (hostname : Option String) : Engine ι :=
  ⟨hostname, Registry.empty, none, none, none, 0, none, ⟨0, 0, 0⟩⟩

def isCapturing (g : Engine ι) : Bool :=
  g.source.isSome

def register (g : Engine ι) (h : Host π) (d : Descriptor π) (config : String) :
    Outcome RegisterFault Handle × Engine ι × Host π :=
  let (result, registry, h) := g.registry.register h d config
  (result, { g with registry }, h)

/-- Begins to capture from a source. Nothing of an earlier capture remains but the counters. -/
def start (g : Engine ι) (source : Source ι) (platform : Option Platform) : Engine ι :=
  { g with source := some source, platform, current := none, nextNum := 0, finished := none }

def openCapture (g : Engine ι) (file : Except IoFault (List UInt8)) :
    Except OpenFault Unit × Engine ι :=
  if g.isCapturing then (.error .alreadyCapturing, g)
  else match file with
    | .error fault => (.error (.io fault), g)
    | .ok bytes =>
      match Capture.read bytes with
      | .error fault => (.error (.malformed fault), g)
      | .ok contents => (.ok (), g.start (.capture contents.records) none)

variable [Plugin π ι]

def openPlugin (g : Engine ι) (h : Host π) (name params : String) (platform : Bool) :
    Outcome OpenFault Unit × Engine ι × Host π :=
  if g.isCapturing then (.failed .alreadyCapturing, g, h)
  else match g.registry.find? name with
    | none => (.failed (.pluginNotFound name), g, h)
    | some plugin =>
      match plugin.manifest.generates with
      | none => (.failed (.notASource name), g, h)
      | some source =>
        match h.openSource plugin params with
        | (.failed reason, h) => (.failed (.refused name reason), g, h)
        | (.panicked p, h) => (.panicked p, g, h)
        | (.ok state, h) =>
          let platform := if platform then some (Platform.detect h.environment g.hostname) else none
          (.ok (), g.start (.plugin ⟨plugin, source, state, []⟩) platform, h)

/-- Shows an event to the plugins among the given ones that parse events of its source. -/
def offer (h : Host π) (e : Event) : List Handle → Outcome String Unit × Host π
  | [] => (.ok (), h)
  | p :: rest =>
    if p.manifest.can .eventParsing && p.manifest.reads e.source then
      match h.parse p e with
      | (.ok _, h) => offer h e rest
      | (.failed reason, h) => (.failed reason, h)
      | (.panicked panic, h) => (.panicked panic, h)
    else offer h e rest

/-- The event that the engine makes of what a source gave. -/
def number (g : Engine ι) (raw : RawEvent) : Event :=
  ⟨g.nextNum, raw.ts, raw.source, raw.eventType, raw.data, g.platform, raw.plugin⟩

def countTimeout (g : Engine ι) : Engine ι :=
  { g with counters := { g.counters with timeouts := g.counters.timeouts + 1 } }

def countDrop (g : Engine ι) : Engine ι :=
  { g with counters := { g.counters with drops := g.counters.drops + 1 } }

def countEvent (g : Engine ι) (e : Event) : Engine ι :=
  { g with
    current := some e
    counters := { g.counters with events := g.counters.events + 1 } }

/-- Delivers what a source gave, unless a plugin refuses it. The number is used up either way. -/
def deliver (g : Engine ι) (h : Host π) (raw : RawEvent) :
    Except Panic Status × Engine ι × Host π :=
  let e := g.number raw
  let g := { g with nextNum := g.nextNum + 1 }
  match offer h e g.registry.plugins with
  | (.ok _, h) => (.ok .ok, g.countEvent e, h)
  | (.failed _, h) => (.ok .timeout, g.countDrop, h)
  | (.panicked panic, h) => (.error panic, g, h)

/-- Advances to the next event. Before anything else the current event is given up. -/
def next (g : Engine ι) (h : Host π) : Except Panic Status × Engine ι × Host π :=
  let g := { g with current := none }
  match g.finished, g.source with
  | some status, _ => (.ok status, g, h)
  | none, none => (.ok .error, g, h)
  | none, some source =>
    let (result, source, h) := source.pull h
    let g := { g with source := some source }
    match result with
    | .error panic => (.error panic, g, h)
    | .ok (.event raw) => g.deliver h raw
    | .ok .timeout => (.ok .timeout, g.countTimeout, h)
    | .ok .eof => (.ok .eof, { g with finished := some .eof }, h)
    | .ok (.failed _) => (.ok .error, { g with finished := some .error }, h)

/-- Closes the source. How the stream ended is remembered until the next source is opened. -/
def stop (g : Engine ι) (h : Host π) : Engine ι × Host π :=
  let h := match g.source with
    | some source => source.close h
    | none => h
  ({ g with source := none, current := none }, h)

def shutdown (g : Engine ι) (h : Host π) : Engine ι × Host π :=
  let (g, h) := g.stop h
  ({ g with registry := g.registry.clear }, h)

end Engine

end EventProbe
