import EventProbe.Text.Quoted

/-!
# Capabilities

What a plugin can do. The capabilities of a plugin are a set, shown in a fixed order.
-/

namespace EventProbe

/-- One thing a plugin can do. -/
inductive Capability where
  | eventSourcing
  | fieldExtraction
  /-- See every event before it is delivered, and refuse it. -/
  | eventParsing
  deriving DecidableEq, Repr

namespace Capability

def all : List Capability := [.eventSourcing, .fieldExtraction, .eventParsing]

def name : Capability → String
  | .eventSourcing => "EventSourcing"
  | .fieldExtraction => "FieldExtraction"
  | .eventParsing => "EventParsing"

end Capability

structure Capabilities where
  eventSourcing : Bool
  fieldExtraction : Bool
  eventParsing : Bool
  deriving DecidableEq, Repr

namespace Capabilities

def none : Capabilities := ⟨false, false, false⟩

def has (s : Capabilities) : Capability → Bool
  | .eventSourcing => s.eventSourcing
  | .fieldExtraction => s.fieldExtraction
  | .eventParsing => s.eventParsing

def insert (s : Capabilities) : Capability → Capabilities
  | .eventSourcing => { s with eventSourcing := true }
  | .fieldExtraction => { s with fieldExtraction := true }
  | .eventParsing => { s with eventParsing := true }

def of (list : List Capability) : Capabilities :=
  list.foldl insert none

def isEmpty (s : Capabilities) : Bool :=
  !s.eventSourcing && !s.fieldExtraction && !s.eventParsing

def toList (s : Capabilities) : List Capability :=
  Capability.all.filter s.has

def text (s : Capabilities) : String :=
  "\x7b" ++ Text.commaSeparated (s.toList.map Capability.name) ++ "\x7d"

end Capabilities

end EventProbe
