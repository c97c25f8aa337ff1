import EventProbe.Plugin.Api

/-!
# The plugin `dummy`

Accepts a single configuration. Its sources are exhausted from the start, and one choice of
parameters opens none.
-/

namespace EventProbe

/-- The plugin has no state. -/
structure Strict where
  deriving DecidableEq, Repr

namespace Strict

structure Exhausted where
  deriving DecidableEq, Repr

def accepted : String := "testing"

instance : Plugin Strict Exhausted where
  openSource p params := (if params = "fail" then .failed "failed!" else .ok {}, p)
  render p _ := (.ok "what event?", p)

def descriptor : Descriptor Strict where
  manifest := {
    name := "dummy"
    version := "0.1.0"
    description := "accepts a single configuration string"
    capabilities := .of [.eventSourcing]
    eventSource := some "dummy"
    extractSources := []
    fields := [] }
  init config :=
    if config = accepted then .ok {}
    else .failed ("I only accept \"" ++ accepted ++ "\" as the config string")

end Strict

end EventProbe
