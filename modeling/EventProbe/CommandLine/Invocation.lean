import EventProbe.CommandLine.Read
import EventProbe.Text.Numeral

/-!
# The command line of the program

`inspect-dump [OPTIONS] <COMMAND>`. Most options are understood before and after the command; of one
that is given at both places the values after the command count.
-/

namespace EventProbe.CommandLine

def program : String := "inspect-dump"

def versionText : String := program ++ " 0.1.0\n"

structure Options where
  config : Option String
  fields : List String
  extractors : List String
  offsets : Bool
  limit : Option Nat
  verbose : Bool
  deriving DecidableEq, Repr

inductive Command where
  | capture (path source : String)
  | fields
  | plugin (name initConfig openParams : String) (platform : Bool)
  deriving DecidableEq, Repr

structure Invocation where
  options : Options
  command : Command
  deriving DecidableEq, Repr

/-! ## Parameters -/

def isPath (text : String) : Bool :=
  !text.isEmpty

def config : Param :=
  { Param.option "config" "FILE" "Driver configuration file (YAML)" with accepts := isPath }

def field : Param :=
  { Param.option "field" "NAME" "Field to extract; may be repeated" with many := true }

def extractor : Param :=
  { Param.option "extractor" "PLUGIN"
      "Plugin whose fields should be available; may be repeated" with
    many := true }

def offsets : Param :=
  .flag "offsets" none "Print the byte range each value was taken from"

def limit : Param :=
  { Param.option "limit" "N" "Stop after this many events" with
    accepts := fun text => (Numeral.parse? text).isSome }

def verbose : Param :=
  .flag "verbose" (some 'v') "Enable verbose logging"

def source : Param :=
  { Param.option "source" "SOURCE" "Event source the extractor plugins are added for" with
    absent := some "syscall" }

def initConfig : Param :=
  { Param.option "init-config" "INIT_CONFIG" "Initialization config passed to the plugin" with
    absent := some "" }

def openParams : Param :=
  { Param.option "open-params" "OPEN_PARAMS" "Parameters passed when opening the source" with
    absent := some "" }

def platform : Param :=
  .flag "platform" none "Attach host metadata to every event"

def path : Param :=
  { Param.positional "<PATH>" "Path to the capture file" with accepts := isPath }

def pluginName : Param :=
  .positional "<NAME>" "Plugin name"

/-! ## Commands -/

inductive Verb where
  | capture
  | fields
  | plugin
  deriving DecidableEq, Repr

namespace Verb

def all : List Verb := [.capture, .fields, .plugin]

def word : Verb → String
  | .capture => "capture"
  | .fields => "fields"
  | .plugin => "plugin"

def about : Verb → String
  | .capture => "Replay a capture file"
  | .fields => "List the built-in fields and the fields of every bundled plugin"
  | .plugin => "Run a bundled source plugin"

def ofWord (word : String) : Option Verb :=
  all.find? (·.word == word)

def grammar (v : Verb) : Grammar :=
  let (positional, options) := match v with
    | .capture => (some path,
      [config, source, field, extractor, offsets, limit, verbose, Param.help])
    | .fields => (none, [config, field, extractor, offsets, limit, verbose, Param.help])
    | .plugin => (some pluginName,
      [config, initConfig, field, openParams, extractor, platform, offsets, limit, verbose,
        Param.help])
  ⟨[program, v.word], v.about, [], positional, options⟩

def command (v : Verb) (given : Given) : Command :=
  let text (p : Param) := ((given.of p.name).head?.or p.absent).getD ""
  match v with
  | .capture => .capture (text path) (text source)
  | .fields => .fields
  | .plugin => .plugin (text pluginName) (text initConfig) (text openParams)
      !(given.of platform.name).isEmpty

end Verb

def helpWord : String := "help"

def helpAbout : String := "Print this message or the help of the given subcommand(s)"

def grammar : Grammar where
  path := [program]
  about := "Print extracted fields for every event of a capture or plugin source"
  commands := Verb.all.map (fun v => (v.word, v.about)) ++ [(helpWord, helpAbout)]
  positional := none
  options := [config, field, extractor, offsets, limit, verbose, Param.help, Param.version]

def helpGrammar : Grammar where
  path := [program, helpWord]
  about := helpAbout
  commands := []
  positional := some (.positional "[COMMAND]..." "Print help for the subcommand(s)")
  options := []

/-! ## Reading -/

/-- The page of the command that words lead to. -/
def pageOf : List String → Stop
  | [] => .page grammar.page
  | word :: rest =>
    let page? := if word = helpWord then some helpGrammar.page
      else (Verb.ofWord word).map (·.grammar.page)
    match page?, rest with
    | some page, [] => .page page
    | some _, next :: _ => .misuse (.unknownCommand next)
    | none, _ => .misuse (.unknownCommand word)

/-- The options of every command, from the values before and after the command. -/
def Options.of (outer inner : Given) : Options :=
  let values (p : Param) :=
    let own := inner.of p.name
    if own.isEmpty then outer.of p.name else own
  { config := (values CommandLine.config).head?
    fields := values field
    extractors := values extractor
    offsets := !(values CommandLine.offsets).isEmpty
    limit := (values CommandLine.limit).head?.bind Numeral.parse?
    verbose := !(values CommandLine.verbose).isEmpty }

/-- Reads the remaining arguments up to the command, and the command. What was read last before the
command is entered after the command is read. -/
def readFrom (r : Reading) : List String → Except Stop Invocation
  | [] => do
    let _ ← r.settle
    .error (.misuse .missingCommand)
  | argument :: rest =>
    let next := do readFrom (← r.step grammar argument) rest
    if r.trailing || r.awaitsValue then next
    else if argument = helpWord then .error (pageOf rest)
    else match Verb.ofWord argument with
      | none => next
      | some v => do
        let inner ← Reading.all v.grammar rest
        let outer ← r.settle
        return ⟨.of outer.given inner, v.command inner⟩

def read (arguments : List String) : Except Stop Invocation :=
  readFrom (Reading.fresh grammar) arguments

end EventProbe.CommandLine
