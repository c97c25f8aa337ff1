import EventProbe.Metric
import EventProbe.Text.Blank
import EventProbe.Text.Quoted

/-!
# Driver settings

What can be configured of a driver, and which values make sense.
-/

namespace EventProbe.Config

structure EngineSettings where
  /-- Whether events carry their platform unless it is said otherwise. -/
  platformDefault : Bool
  hostname : Option String
  deriving DecidableEq, Repr

def EngineSettings.default : EngineSettings := ⟨false, none⟩

structure Settings where
  logLevel : String
  engine : EngineSettings
  metrics : MetricFlags
  deriving DecidableEq, Repr

def Settings.default : Settings := ⟨"info", EngineSettings.default, MetricFlags.default⟩

def logLevels : List String := ["trace", "debug", "info", "warn", "error", "off"]

inductive InvalidSettings where
  | logLevel (level : String)
  | hostname (name : String)
  deriving DecidableEq, Repr

def InvalidSettings.message : InvalidSettings → String
  | .logLevel level =>
    s!"Unknown log level '{level}', expected one of " ++ Text.commaSeparated logLevels
  | .hostname name => s!"Invalid hostname override '{name}'"

def isHostname (name : String) : Bool :=
  !name.isEmpty && !name.toList.any Text.isBlank

/-- Checks the log level, in any case of letters, and the host name. -/
def Settings.validate (s : Settings) : Except InvalidSettings Unit :=
  if !logLevels.contains s.logLevel.toLower then .error (.logLevel s.logLevel)
  else match s.engine.hostname with
    | some name => if isHostname name then .ok () else .error (.hostname name)
    | none => .ok ()

/-- Settings of which some are given. -/
structure Draft where
  logLevel : Option String
  engine : Option EngineSettings
  metrics : Option MetricFlags

def Draft.blank : Draft := ⟨none, none, none⟩

def Draft.settings (d : Draft) : Settings :=
  ⟨d.logLevel.getD Settings.default.logLevel, d.engine.getD Settings.default.engine,
    d.metrics.getD Settings.default.metrics⟩

/-- Settings of the engine of which some are given. A host name may be given as none. -/
structure EngineDraft where
  platformDefault : Option Bool
  hostname : Option (Option String)

def EngineDraft.blank : EngineDraft := ⟨none, none⟩

def EngineDraft.settings (d : EngineDraft) : EngineSettings :=
  ⟨d.platformDefault.getD EngineSettings.default.platformDefault,
    d.hostname.getD EngineSettings.default.hostname⟩

structure MetricsDraft where
  plugins : Option Bool
  engine : Option Bool

def MetricsDraft.blank : MetricsDraft := ⟨none, none⟩

def MetricsDraft.flags (d : MetricsDraft) : MetricFlags :=
  ⟨d.plugins.getD MetricFlags.default.plugins, d.engine.getD MetricFlags.default.engine⟩

end EventProbe.Config
