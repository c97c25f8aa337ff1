import EventProbe.Platform

/-!
# The log

The program and its parts say what they do in log entries. A subscriber writes them to the standard
output, between the texts of the program itself: those entries that pass a filter, which is spelled by
the variable `INSPECT_LOG`, else by the log level of the settings.
-/

namespace EventProbe

namespace Log

inductive Level where
  | trace
  | debug
  | info
  | warn
  | error
  deriving DecidableEq, Repr

namespace Level

def all : List Level := [.trace, .debug, .info, .warn, .error]

def name : Level → String
  | trace => "TRACE"
  | debug => "DEBUG"
  | info => "INFO"
  | warn => "WARN"
  | error => "ERROR"

def rank (l : Level) : Nat :=
  all.idxOf l

end Level

/-- What an entry comes from. Filters may tell the entries of one part from those of another. -/
inductive Part where
  | program
  | driver
  | extractors
  | engine
  | registry
  | source
  | capture
  | countdown
  deriving DecidableEq, Repr

structure Entry where
  level : Level
  part : Part
  message : String
  deriving DecidableEq, Repr

def Entry.debug (part : Part) (message : String) : Entry := ⟨.debug, part, message⟩

def Entry.info (part : Part) (message : String) : Entry := ⟨.info, part, message⟩

def Entry.warn (part : Part) (message : String) : Entry := ⟨.warn, part, message⟩

/-- What writes a log. Which filters there are and how an entry looks is its own business; its text may
depend on the time, for which the position of the entry in the log stands. -/
structure Subscriber where
  Filter : Type
  /-- The filter that a text spells, if it spells one. -/
  parse : String → Option Filter
  ofLevel : String → Filter
  passes : Filter → Entry → Bool
  text : Nat → Entry → String
  /-- The filter `off` lets no entry pass. -/
  off : ∃ filter, parse "off" = some filter ∧ ∀ e, passes filter e = false

end Log

/-- A piece of what a run writes to its standard output. -/
inductive Write where
  /-- A text of the program itself. -/
  | text (s : String)
  | log (entry : Log.Entry)
  deriving DecidableEq, Repr

namespace Write

def ofLog (entries : List Log.Entry) : List Write :=
  entries.map .log

def text? : Write → Option String
  | text s => some s
  | log _ => none

def texts (writes : List Write) : List String :=
  writes.filterMap text?

end Write

namespace Log.Subscriber

/-- The filter of a run: the variable goes before the level of the settings. -/
def filter (s : Subscriber) (environment : Environment) (level : String) : s.Filter :=
  ((environment.lookup "INSPECT_LOG").bind s.parse).getD (s.ofLevel level)

/-- What is seen of writes that come after so many entries of the log. -/
def shown (s : Subscriber) (filter : s.Filter) : Nat → List Write → List String
  | _, [] => []
  | n, .text t :: rest => t :: s.shown filter n rest
  | n, .log e :: rest =>
    if s.passes filter e then s.text n e :: s.shown filter (n + 1) rest
    else s.shown filter (n + 1) rest

/-- Writes nothing. -/
def silent : Subscriber where
  Filter := Unit
  parse _ := some ()
  ofLevel _ := ()
  passes _ _ := false
  text _ _ := ""
  off := ⟨(), rfl, fun _ => rfl⟩

/-- The least level that a text names, in any case of letters; none for `off`. -/
def threshold? (text : String) : Option (Option Level) :=
  let name := text.toUpper
  if name = "OFF" then some none else (Level.all.find? (·.name = name)).map some

/-- Writes a line for each entry, with the time. Its filters are the least level that passes, if any
does. -/
def plain (time : Nat → String) : Subscriber where
  Filter := Option Level
  parse := threshold?
  ofLevel name := (threshold? name).getD (some .error)
  passes
    | none, _ => false
    | some least, e => least.rank ≤ e.level.rank
  text n e :=
    let name := e.level.name
    let indent := String.ofList (List.replicate (5 - name.length) ' ')
    s!"{time n} {indent}{name} {e.message}\n"
  off := ⟨none, by decide +kernel, fun _ => rfl⟩

end Log.Subscriber

end EventProbe
