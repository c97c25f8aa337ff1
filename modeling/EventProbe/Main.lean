import EventProbe.Dump
import Std.Time.DateTime.Timestamp

/-!
# The program on the console

Reads the files and the environment of the process, and prints lines and log entries as they come.
-/

namespace EventProbe.Console

def fault : IO.Error → IoFault
  | .noFileOrDirectory .. => .notFound
  | .inappropriateType _ 21 _ => .isDirectory
  | .inappropriateType .. => .other "Not a directory (os error 20)"
  | .permissionDenied .. => .other "Permission denied (os error 13)"
  | e => .other e.toString

def contents (path : String) : IO (Except IoFault (List UInt8)) := do
  try
    return .ok (← IO.FS.readBinFile path).toList
  catch e =>
    return .error (fault e)

def text? (path : String) : IO (Option String) := do
  match ← contents path with
  | .ok bytes => return (Utf8.decode bytes).toOption
  | .error _ => return none

def readVariable (entry : List UInt8) : Option (String × String) := do
  let name ← (Utf8.decode (entry.takeWhile (· ≠ 61))).toOption
  let value ← (Utf8.decode ((entry.dropWhile (· ≠ 61)).drop 1)).toOption
  return (name, value)

def environment : IO Environment := do
  let entries := match ← contents "/proc/self/environ" with
    | .ok bytes => (bytes.splitOn 0).filterMap readVariable
    | .error _ => []
  return ⟨fun name => entries.lookup name, ← text? "/proc/sys/kernel/hostname"⟩

/-- The files that a command line names. -/
def paths (i : CommandLine.Invocation) : List String :=
  i.options.config.toList ++ match i.command with
    | .capture path _ => [path]
    | _ => []

def files (i : CommandLine.Invocation) : IO Dump.Files := do
  let found ← (paths i).mapM fun path => return (path, ← contents path)
  return fun path => (found.lookup path).getD (.error .notFound)

/-- Prints the result of a run and gives its exit code. -/
def report (r : Dump.Result) : IO UInt32 := do
  IO.print r.output
  IO.eprint r.errors
  return r.code.toUInt32

/-- The present time, in nanoseconds since 1 January 1970. -/
def now : IO Nat :=
  return (← Std.Time.Timestamp.now).toNanosecondsSinceUnixEpoch.val.toNat

/-- Prints what is written now, with those entries of the log that pass its filter. -/
def write (environment : Environment) (level : String) (writes : List Write) : IO Unit := do
  let time := (Instant.ofNanos (← now)).text .nanos
  let log := Log.Subscriber.plain fun _ => time
  IO.print (String.join (log.shown (log.filter environment level) 0 writes))

/-- Advances the program until it ends. -/
partial def loop (print : List Write → IO Unit) (d : Dump) : IO UInt32 := do
  let d := { d with host.now := ← now }
  print d.written
  match d.advance with
  | .printed _ next | .waiting next => loop print next
  | .ended failure _ => report (.ending "" failure)

def run (arguments : List String) : IO UInt32 := do
  match CommandLine.read arguments with
  | .error stop => report (.stopped stop)
  | .ok invocation =>
    let files ← files invocation
    let environment ← environment
    match Dump.loadSettings files environment invocation.options with
    | .error failure => report (.ending "" (some failure))
    | .ok settings =>
      let print := write environment settings.logLevel
      let (ready, told) := Dump.setUp files environment settings invocation []
      print (Write.ofLog told)
      match ready with
      | .error failure => report (.ending "" (some failure))
      | .ok (.listFields s) =>
        print s.listing
        report (.ending "" none)
      | .ok (.dump d) => loop print d

end EventProbe.Console

def main (arguments : List String) : IO UInt32 :=
  EventProbe.Console.run arguments
