import EventProbe.Config.Interpolate
import EventProbe.Config.Settings
import EventProbe.IoFault
import EventProbe.Text.Utf8
import EventProbe.Yaml.Decode

/-!
# Loading settings

Settings are written in YAML. References to variables are replaced in the text before it is read, so
that a value may bring structure with it. A text without content gives the default settings.
-/

namespace EventProbe.Config

inductive Fault where
  | file (fault : IoFault)
  | yaml
  | invalid (reason : InvalidSettings)
  /-- Variables without a value, in order. -/
  | unbound (names : List String)
  deriving DecidableEq, Repr

/-- The text of a fault. That of a YAML fault belongs to the notation of YAML and has no words
here. -/
def Fault.message : Fault → String
  | .file fault => s!"Failed to read config file: {fault.message}"
  | .yaml => "Failed to parse YAML"
  | .invalid reason => s!"Invalid configuration: {reason.message}"
  | .unbound names => "Environment variable not found: " ++ Text.commaSeparated names

def engineMembers : List (Yaml.Member EngineDraft) := [
  { name := "platform_metadata_default", given := (·.platformDefault.isSome)
    read := fun draft d node =>
      (Yaml.readBool d node).map fun v => { draft with platformDefault := some v } },
  { name := "hostname", given := (·.hostname.isSome)
    read := fun draft d node =>
      (Yaml.readOption Yaml.readText d node).map fun v => { draft with hostname := some v } }]

def metricsMembers : List (Yaml.Member MetricsDraft) := [
  { name := "plugins", given := (·.plugins.isSome)
    read := fun draft d node =>
      (Yaml.readBool d node).map fun v => { draft with plugins := some v } },
  { name := "engine", given := (·.engine.isSome)
    read := fun draft d node =>
      (Yaml.readBool d node).map fun v => { draft with engine := some v } }]

def members : List (Yaml.Member Draft) := [
  { name := "log_level", given := (·.logLevel.isSome)
    read := fun draft d node =>
      (Yaml.readText d node).map fun v => { draft with logLevel := some v } },
  { name := "engine", given := (·.engine.isSome)
    read := fun draft d node =>
      (Yaml.readRecord engineMembers .blank d node).map fun v =>
        { draft with engine := some v.settings } },
  { name := "metrics", given := (·.metrics.isSome)
    read := fun draft d node =>
      (Yaml.readRecord metricsMembers .blank d node).map fun v =>
        { draft with metrics := some v.flags } }]

def ofYaml (text : String) : Option Settings := do
  let d ← Yaml.parse text
  let draft ← Yaml.readRecord members .blank d d.root
  return draft.settings

def load (lookup : String → Option String) (text : String) : Except Fault Settings := do
  let resolved ← (interpolate lookup text).mapError .unbound
  let settings ← if Text.isBlankText resolved then .ok Settings.default
    else match ofYaml resolved with
      | some settings => .ok settings
      | none => .error .yaml
  settings.validate.mapError .invalid
  return settings

def loadFile (lookup : String → Option String) (file : Except IoFault (List UInt8)) :
    Except Fault Settings := do
  let bytes ← file.mapError .file
  let text ← (Utf8.decode bytes).mapError fun _ => .file .notText
  load lookup text

end EventProbe.Config
