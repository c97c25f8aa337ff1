import EventProbe.Text.Blank

/-!
# Platform

What the library asks of the process it runs in, and the description of the host that events carry
on request.
-/

namespace EventProbe

/-- The process as far as it is looked at. -/
structure Environment where
  lookup : String → Option String
  /-- The name that the operating system gives the host. -/
  systemName : Option String

def Environment.bare : Environment :=
  ⟨fun _ => none, none⟩

/-- Host, operating system and processor of the events of a stream. -/
structure Platform where
  hostname : String
  os : String
  arch : String
  deriving DecidableEq, Repr

/-- The present platform. The host name is the given one, else the variable `HOSTNAME`, else that of
the system; an empty one is replaced. -/
def Platform.detect (environment : Environment) (hostname : Option String) : Platform :=
  let system := environment.systemName.map Text.trim
  let found := hostname.or ((environment.lookup "HOSTNAME").or system)
  ⟨(found.filter (· ≠ "")).getD "localhost", "linux", "x86_64"⟩

end EventProbe
