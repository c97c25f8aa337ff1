import EventProbe.Platform
import EventProbe.Plugin.Manifest

/-!
# Events

An event of a stream. Its data is the text it was recorded or generated with, as bytes; the ranges
that extraction reports are positions in it.
-/

namespace EventProbe

def pluginEventType : Nat := 322

/-- An event that an engine delivers. -/
structure Event where
  /-- Its position in the stream, from zero. -/
  num : Nat
  /-- Its time, in nanoseconds since 1 January 1970. -/
  ts : Nat
  source : String
  eventType : Nat
  data : List UInt8
  /-- The host, if this was asked for when the source was opened. -/
  platform : Option Platform
  /-- The plugin that generated it. -/
  plugin : Option Handle
  deriving DecidableEq, Repr

/-- The data as text, faults replaced. -/
def Event.text (e : Event) : String :=
  Utf8.lossy e.data

/-- An event as a plugin generates it. -/
structure BatchEvent where
  /-- Its time; the time of delivery if there is none. -/
  ts : Option Nat
  data : List UInt8
  deriving DecidableEq, Repr

/-- What a source yields when it is asked for more events. -/
inductive Batch where
  /-- Some events, or none yet. -/
  | events (list : List BatchEvent)
  | timeout
  | endOfStream
  /-- The source failed for good. -/
  | failed (message : String)
  deriving DecidableEq, Repr

structure Request where
  /-- Position of the field in the plugin's table. -/
  fieldId : Nat
  field : FieldInfo
  /-- The argument as a number, where the field takes one. -/
  argIndex : Option Nat
  /-- The argument as it is written, where it is not a number that the field takes. -/
  argKey : Option String
  event : Event
  /-- Whether byte ranges are wanted. -/
  offsets : Bool
  deriving DecidableEq, Repr

def Request.make (fieldId : Nat) (info : FieldInfo) (name : FieldName) (event : Event)
    (offsets : Bool) : Request :=
  let argIndex := if info.argument.index then name.index else none
  let argKey := if info.argument.key && argIndex.isNone then name.argument else none
  ⟨fieldId, info, argIndex, argKey, event, offsets⟩

end EventProbe
