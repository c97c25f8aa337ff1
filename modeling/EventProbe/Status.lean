/-!
# Status of a step

What a step of an event stream comes to.
-/

namespace EventProbe

/-- Outcome of asking for the next event. -/
inductive Status where
  /-- An event is there. -/
  | ok
  /-- None yet; asking again may help. -/
  | timeout
  /-- The stream is exhausted. -/
  | eof
  /-- The source failed for good. -/
  | error
  deriving DecidableEq, Repr

namespace Status

def text : Status → String
  | .ok => "OK"
  | .timeout => "Timeout"
  | .eof => "Eof"
  | .error => "Error"

/-- Whether no event can follow. -/
def isTerminal : Status → Bool
  | .eof => true
  | .error => true
  | _ => false

end Status

end EventProbe
