import EventProbe.FieldName
import EventProbe.Plugin.Capability
import EventProbe.Value

/-!
# Manifests

What a plugin declares about itself: its name, what it can do, the source of the events it
generates, the sources it can read, and the table of its fields.
-/

namespace EventProbe

/-- Which arguments a field takes. -/
structure ArgumentRule where
  index : Bool
  key : Bool
  /-- Whether the field must have an argument. -/
  required : Bool
  deriving DecidableEq, Repr

namespace ArgumentRule

def none : ArgumentRule := ⟨false, false, false⟩

def anIndex : ArgumentRule := ⟨true, false, true⟩

def aKey : ArgumentRule := ⟨false, true, true⟩

def acceptsSome (r : ArgumentRule) : Bool :=
  r.index || r.key

def accepts (r : ArgumentRule) (field : FieldName) : Bool :=
  match field.argument with
  | .none => !r.required
  | .some argument =>
    r.acceptsSome && ((r.index && (Numeral.parse? argument).isSome) || r.key)

end ArgumentRule

structure FieldInfo where
  name : String
  type : FieldType
  /-- Whether extraction may yield several values. -/
  isList : Bool
  argument : ArgumentRule
  description : String
  deriving DecidableEq, Repr

structure Manifest where
  name : String
  version : String
  description : String
  capabilities : Capabilities
  /-- The source of the events it generates. -/
  eventSource : Option String
  /-- The sources it reads, if it names them. -/
  extractSources : List String
  fields : List FieldInfo
  deriving DecidableEq, Repr

namespace Manifest

def can (m : Manifest) (c : Capability) : Bool :=
  m.capabilities.has c

/-- The sources the plugin reads: those it names, else its own. -/
def compatibleSources (m : Manifest) : List String :=
  if m.extractSources.isEmpty then m.eventSource.toList else m.extractSources

/-- Whether the plugin reads events of a source. One that names no source reads all. -/
def reads (m : Manifest) (source : String) : Bool :=
  m.compatibleSources.isEmpty || m.compatibleSources.contains source

/-- The source that the plugin generates events for, if it can. -/
def generates (m : Manifest) : Option String :=
  if m.can .eventSourcing then m.eventSource else none

/-- The position and declaration of the first field with a name. -/
def findField (m : Manifest) (name : String) : Option (Nat × FieldInfo) :=
  match m.fields.findIdx? (·.name == name) with
  | some id => m.fields[id]?.map fun info => (id, info)
  | none => none

def text (m : Manifest) : String :=
  let source := match m.eventSource with
    | some source => "Some(" ++ Text.quoted source ++ ")"
    | none => "None"
  "PluginDescriptor \x7b name: " ++ Text.quoted m.name ++ ", version: " ++ Text.quoted m.version
    ++ ", capabilities: " ++ m.capabilities.text ++ ", event_source: " ++ source
    ++ ", extract_event_sources: [" ++ Text.commaSeparated (m.extractSources.map Text.quoted)
    ++ "], .. \x7d"

end Manifest

/-- A reference to a registered plugin: its place among all plugins that were ever registered in the
process, and what it declares. -/
structure Handle where
  slot : Nat
  manifest : Manifest
  deriving DecidableEq, Repr

namespace Handle

def name (h : Handle) : String := h.manifest.name

def same (a b : Handle) : Bool := a.slot == b.slot

def text (h : Handle) : String :=
  "PluginHandle \x7b name: " ++ Text.quoted h.name ++ ", capabilities: "
    ++ h.manifest.capabilities.text ++ " \x7d"

end Handle

end EventProbe
