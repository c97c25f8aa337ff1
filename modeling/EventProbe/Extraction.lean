import EventProbe.Host

/-!
# Extraction

An extractor is bound to one field name and reads that field from events. Some fields every event
has; others are served by plugins.
-/

namespace EventProbe

/-- The fields that every event has. -/
inductive GenericField where
  | num
  | time
  | rawTime
  | source
  | type
  | pluginInfo
  | dataLength
  | data
  | argument
  | hostname
  | os
  | arch
  deriving DecidableEq, Repr

namespace GenericField

def all : List GenericField :=
  [.num, .time, .rawTime, .source, .type, .pluginInfo, .dataLength, .data, .argument, .hostname,
    .os, .arch]

def path : GenericField → String
  | .num => "evt.num"
  | .time => "evt.time"
  | .rawTime => "evt.rawtime"
  | .source => "evt.source"
  | .type => "evt.type"
  | .pluginInfo => "evt.plugininfo"
  | .dataLength => "evt.buflen"
  | .data => "evt.data"
  | .argument => "evt.arg"
  | .hostname => "platform.hostname"
  | .os => "platform.os"
  | .arch => "platform.arch"

def description : GenericField → String
  | .num => "position of the event in the stream"
  | .time => "event timestamp as RFC 3339"
  | .rawTime => "event timestamp in nanoseconds"
  | .source => "name of the event source"
  | .type => "numeric event type"
  | .pluginInfo => "event rendered by its source plugin"
  | .dataLength => "length of the event data"
  | .data => "event data as text"
  | .argument => "value of a key=value token in the event data"
  | .hostname => "host name, with platform metadata"
  | .os => "operating system, with platform metadata"
  | .arch => "CPU architecture, with platform metadata"

def ofPath (path : String) : Option GenericField :=
  all.find? (·.path == path)

def takesArgument (f : GenericField) : Bool :=
  f == .argument

end GenericField

/-- The value of the first token `key=value`, with its position in bytes, among tokens that begin at
`position`. -/
def findToken (key : List Char) : List (List Char) → Nat → Option (Nat × List Char)
  | [], _ => none
  | token :: rest, position =>
    match (key ++ ['=']).isPrefixOf? token with
    | some value => some (position + Utf8.width key + 1, value)
    | none => findToken key rest (position + Utf8.width token + 1)

/-- The parts of a text between single blanks. -/
def tokens (text : String) : List (List Char) :=
  text.toList.splitOn ' '

/-- The value of the first token `key=value` of event data, with its position in bytes. Data that is
not text has no tokens. -/
def findArgument (data : List UInt8) (key : String) : Option (Nat × List Char) :=
  match Utf8.decode data with
  | .error _ => none
  | .ok text => findToken key.toList (tokens text) 0

inductive Extractor where
  | generic (field : FieldName) (kind : GenericField)
  /-- Asks a plugin for the field at a position of its table. -/
  | plugin (field : FieldName) (owner : Handle) (id : Nat) (info : FieldInfo)
  deriving DecidableEq, Repr

namespace Extractor

def field : Extractor → FieldName
  | .generic field _ => field
  | .plugin field _ _ _ => field

variable [Plugin π ι]

def extractGeneric (h : Host π) (field : FieldName) (kind : GenericField) (e : Event) :
    Outcome String (List Extracted) × Host π :=
  let one (v : FieldValue) : Outcome String (List Extracted) × Host π := (.ok [.plain v], h)
  let ofPlatform (part : Platform → String) : Outcome String (List Extracted) × Host π :=
    match e.platform with
    | some platform => one (.text (part platform))
    | none => (.ok [], h)
  match kind with
  | .num => one (.number e.num)
  | .time => one (.time e.ts)
  | .rawTime => one (.number e.ts)
  | .source => one (.text e.source)
  | .type => one (.number e.eventType)
  | .pluginInfo =>
    match e.plugin with
    | some p =>
      let (text, h) := h.render p e
      (text.map fun s => [.plain (.text s)], h)
    | none => one (.text e.text)
  | .dataLength => one (.number e.data.length)
  | .data => (.ok [.located (.text e.text) 0 e.data.length], h)
  | .argument =>
    match findArgument e.data (field.argument.getD "") with
    | some (start, value) =>
      (.ok [.located (.text (String.ofList value)) start (Utf8.width value)], h)
    | none => (.ok [], h)
  | .hostname => ofPlatform Platform.hostname
  | .os => ofPlatform Platform.os
  | .arch => ofPlatform Platform.arch

/-- The values of a field of an event. A plugin is not asked about events of sources it does not
read, and gives at most one value for a field that is not a list. -/
def extract (h : Host π) (x : Extractor) (e : Event) (offsets : Bool) :
    Outcome String (List Extracted) × Host π :=
  match x with
  | .generic field kind => extractGeneric h field kind e
  | .plugin field owner id info =>
    if owner.manifest.reads e.source then
      let (values, h) := h.extract owner (Request.make id info field e offsets)
      (values.map fun vs => if info.isList then vs else vs.take 1, h)
    else (.ok [], h)

def render (h : Host π) (x : Extractor) (e : Event) : Outcome String (Option String) × Host π :=
  let (values, h) := x.extract h e false
  (values.map shownValues, h)

def extractWithOffsets (h : Host π) (x : Extractor) (e : Event) :
    Outcome String (List Extracted) × Host π :=
  x.extract h e true

end Extractor

/-- Builds extractors for the field names it knows. -/
structure Factory where
  /-- What tells it from other factories. -/
  id : String
  build : FieldName → Option Extractor

namespace Factory

def generic : Factory where
  id := "generic"
  build field :=
    match GenericField.ofPath field.path with
    | some kind =>
      if kind.takesArgument = field.argument.isSome then some (.generic field kind) else none
    | none => none

/-- The factory of the fields of a plugin, if it extracts fields. The first field of the table with
the right name counts. -/
def ofPlugin (p : Handle) : Option Factory :=
  if p.manifest.can .fieldExtraction then
    some {
      id := "plugin:" ++ p.name
      build field :=
        match p.manifest.findField field.path with
        | some (id, info) =>
          if info.argument.accepts field then some (.plugin field p id info) else none
        | none => none }
  else none

end Factory

end EventProbe
