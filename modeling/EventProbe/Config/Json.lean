import EventProbe.Config.Settings
import EventProbe.Json.Decode
import EventProbe.Json.Print

/-!
# The JSON form of settings

Every member may be left out, and no other is allowed. A host name that is not set is not written.
-/

namespace EventProbe.Config

def EngineSettings.layout : Json.Layout EngineDraft EngineSettings where
  title := "struct EngineSettings"
  strict := true
  start := .blank
  members := [
    { name := "platform_metadata_default", optional := true, given := (·.platformDefault.isSome)
      read := fun d rest =>
        (Json.readBool rest).map fun (v, rest) => ({ d with platformDefault := some v }, rest) },
    { name := "hostname", optional := true, given := (·.hostname.isSome)
      read := fun d rest =>
        (Json.readOption Json.readText rest).map fun (v, rest) =>
          ({ d with hostname := some v }, rest) }]
  finish := fun d => .ok d.settings

def metricsLayout : Json.Layout MetricsDraft MetricFlags where
  title := "struct MetricsSettings"
  strict := true
  start := .blank
  members := [
    { name := "plugins", optional := true, given := (·.plugins.isSome)
      read := fun d rest =>
        (Json.readBool rest).map fun (v, rest) => ({ d with plugins := some v }, rest) },
    { name := "engine", optional := true, given := (·.engine.isSome)
      read := fun d rest =>
        (Json.readBool rest).map fun (v, rest) => ({ d with engine := some v }, rest) }]
  finish := fun d => .ok d.flags

def Settings.layout : Json.Layout Draft Settings where
  title := "struct DriverConfig"
  strict := true
  start := .blank
  members := [
    { name := "log_level", optional := true, given := (·.logLevel.isSome)
      read := fun d rest =>
        (Json.readText rest).map fun (v, rest) => ({ d with logLevel := some v }, rest) },
    { name := "engine", optional := true, given := (·.engine.isSome)
      read := fun d rest =>
        (Json.readRecord EngineSettings.layout rest).map fun (v, rest) =>
          ({ d with engine := some v }, rest) },
    { name := "metrics", optional := true, given := (·.metrics.isSome)
      read := fun d rest =>
        (Json.readRecord metricsLayout rest).map fun (v, rest) =>
          ({ d with metrics := some v }, rest) }]
  finish := fun d => .ok d.settings

def Settings.ofJson (text : String) : Except String Settings :=
  Json.decode (Json.readRecord Settings.layout) text

def EngineSettings.json (s : EngineSettings) : List Char :=
  Json.printObject (("platform_metadata_default", Json.printBool s.platformDefault) ::
    match s.hostname with
    | some name => [("hostname", Json.printText name)]
    | none => [])

def metricsJson (f : MetricFlags) : List Char :=
  Json.printObject [("plugins", Json.printBool f.plugins), ("engine", Json.printBool f.engine)]

def Settings.json (s : Settings) : List Char :=
  Json.printObject [
    ("log_level", Json.printText s.logLevel),
    ("engine", s.engine.json),
    ("metrics", metricsJson s.metrics)]

end EventProbe.Config
