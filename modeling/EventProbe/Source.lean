import EventProbe.Capture.Read
import EventProbe.Host

/-!
# Event sources

A source is either a capture file that is replayed or an opened source of a plugin. A plugin
delivers events in batches; the source hands them out one at a time and asks for the next batch only
when none is left.
-/

namespace EventProbe

/-- An event as it leaves a source, before it is numbered. -/
structure RawEvent where
  ts : Nat
  source : String
  eventType : Nat
  data : List UInt8
  plugin : Option Handle
  deriving DecidableEq, Repr

/-- What a source gives when it is asked for one event. -/
inductive Pulled where
  | event (raw : RawEvent)
  | timeout
  | eof
  | failed (reason : String)
  deriving DecidableEq, Repr

/-- An opened source of a plugin. -/
structure PluginStream (ι : Type) where
  owner : Handle
  source : String
  state : ι
  /-- Events of the last batch that were not handed out yet. -/
  pending : List BatchEvent

inductive Source (ι : Type) where
  /-- The records that were not replayed yet. -/
  | capture (records : List Capture.Record)
  | plugin (stream : PluginStream ι)

def Capture.Record.raw (r : Capture.Record) : RawEvent :=
  ⟨r.ts, r.source, r.eventType, Utf8.encode r.data, none⟩

/-- The event of a batch, delivered at a time. -/
def PluginStream.raw (s : PluginStream ι) (now : Nat) (e : BatchEvent) : RawEvent :=
  ⟨e.ts.getD now, s.source, pluginEventType, e.data, some s.owner⟩

variable [Plugin π ι]

/-- Takes one event from a source of a plugin. An empty batch counts as a timeout. -/
def PluginStream.pull (s : PluginStream ι) (h : Host π) :
    Except Panic Pulled × PluginStream ι × Host π :=
  match s.pending with
  | e :: rest => (.ok (.event (s.raw h.now e)), { s with pending := rest }, h)
  | [] =>
    let (batch, state, h) := h.nextBatch s.owner s.state
    let s := { s with state }
    match batch with
    | .error panic => (.error panic, s, h)
    | .ok (.events (e :: rest)) => (.ok (.event (s.raw h.now e)), { s with pending := rest }, h)
    | .ok (.events []) => (.ok .timeout, s, h)
    | .ok .timeout => (.ok .timeout, s, h)
    | .ok .endOfStream => (.ok .eof, s, h)
    | .ok (.failed reason) => (.ok (.failed reason), s, h)

namespace Source

def pull (s : Source ι) (h : Host π) : Except Panic Pulled × Source ι × Host π :=
  match s with
  | .capture [] => (.ok .eof, .capture [], h)
  | .capture (r :: rest) => (.ok (.event r.raw), .capture rest, h)
  | .plugin stream =>
    let (result, stream, h) := stream.pull h
    (result, .plugin stream, h)

def close (s : Source ι) (h : Host π) : Host π :=
  match s with
  | .capture _ => h
  | .plugin stream => h.close stream.owner stream.state

end Source

end EventProbe
