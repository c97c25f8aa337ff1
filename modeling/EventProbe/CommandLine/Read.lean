import EventProbe.CommandLine.Grammar

/-!
# Reading the arguments of a command

Options are written `--name`, `--name=value`, `--name value`, or with short names together as in
`-vh`; all other arguments are positional, as are all after `--`. An option that takes a value keeps
waiting for it until the next argument that can be one. What was read last is entered only when
something else is read or the arguments end, so a wrong value is found after the argument that
follows it.
-/

namespace EventProbe.CommandLine

inductive Misuse where
  | unknownOption (name : String)
  | unknownCommand (name : String)
  /-- A value is given to an option that takes none. -/
  | needlessValue (option : String)
  | missingValue (option : String)
  | badValue (param value : String)
  | repeated (option : String)
  | unexpected (argument : String)
  | missingArgument (name : String)
  | missingCommand
  deriving DecidableEq, Repr

def Misuse.message : Misuse → String
  | unknownOption name => s!"unexpected argument '{name}' found"
  | unknownCommand name => s!"unrecognized subcommand '{name}'"
  | needlessValue option => s!"unexpected value for '--{option}' found"
  | missingValue option => s!"a value is required for '--{option}' but none was supplied"
  | badValue param value => s!"invalid value '{value}' for '{param}'"
  | repeated option => s!"the argument '--{option}' cannot be used multiple times"
  | unexpected argument => s!"unexpected argument '{argument}' found"
  | missingArgument name => s!"the following required arguments were not provided: {name}"
  | missingCommand => "a subcommand is required but one was not provided"

inductive Stop where
  | page (text : String)
  | version
  | misuse (reason : Misuse)
  deriving DecidableEq, Repr

/-- The values of parameters, by name, in the order they were given. A flag has an empty one. -/
abbrev Given := List (String × String)

def Given.of (g : Given) (name : String) : List String :=
  g.filterMap fun (param, value) => if param = name then some value else none

/-- How far a command is read. -/
structure Reading where
  given : Given
  /-- What was read last, with its value unless that is still to come. -/
  last : Option (Param × Option String)
  /-- The positional argument that was not given yet. -/
  free : Option Param
  /-- Whether only positional arguments follow. -/
  trailing : Bool

namespace Reading

def fresh (g : Grammar) : Reading :=
  ⟨[], none, g.positional, false⟩

def awaitsValue (r : Reading) : Bool :=
  match r.last with
  | some (_, none) => true
  | _ => false

def enter (r : Reading) (p : Param) (value : String) : Except Stop Reading :=
  if !p.many && !(r.given.of p.name).isEmpty then .error (.misuse (.repeated p.name))
  else if !p.accepts value then .error (.misuse (.badValue p.name value))
  else .ok { r with given := r.given ++ [(p.name, value)] }

def settle (r : Reading) : Except Stop Reading :=
  match r.last with
  | none => .ok r
  | some (p, none) => .error (.misuse (.missingValue p.name))
  | some (p, some value) => { r with last := none }.enter p value

def act (g : Grammar) (r : Reading) (p : Param) : Except Stop Reading := do
  let r ← r.settle
  match p.purpose with
  | .page => .error (.page g.page)
  | .version => .error .version
  | _ => r.enter p ""

/-- Reads an option by its long name, with the value that is attached to it. -/
def long (g : Grammar) (r : Reading) (name : String) (attached : Option String) :
    Except Stop Reading :=
  match g.long? name with
  | none => .error (.misuse (.unknownOption ("--" ++ name)))
  | some p =>
    match p.takesValue, attached with
    | true, some value => do (← r.settle).enter p value
    | true, none => do return { ← r.settle with last := some (p, none) }
    | false, some _ => .error (.misuse (.needlessValue name))
    | false, none => r.act g p

/-- Reads options by their short names. Only options that take no value have one. -/
def shorts (g : Grammar) : Reading → List Char → Except Stop Reading
  | r, [] => .ok r
  | r, c :: rest =>
    match g.short? c with
    | none => .error (.misuse (.unknownOption ("-" ++ c.toString)))
    | some p => do shorts g (← r.act g p) rest

/-- Reads an argument that is no option: a value where one is awaited, else the positional
argument. -/
def plain (r : Reading) (argument : String) : Except Stop Reading :=
  match r.last, r.trailing, r.free with
  | some (p, none), false, _ => .ok { r with last := some (p, some argument) }
  | _, _, some p => do return { ← r.settle with last := some (p, some argument), free := none }
  | _, _, none => .error (.misuse (.unexpected argument))

def step (g : Grammar) (r : Reading) (argument : String) : Except Stop Reading :=
  if r.trailing then r.plain argument
  else match argument.toList with
    | ['-', '-'] => .ok { r with trailing := true }
    | '-' :: '-' :: rest =>
      let name := rest.takeWhile (· ≠ '=')
      let attached := (rest.drop name.length).tail?.map String.ofList
      r.long g (String.ofList name) attached
    | '-' :: c :: rest => r.shorts g (c :: rest)
    | _ => r.plain argument

def finish (r : Reading) : Except Stop Given := do
  let r ← r.settle
  match r.free with
  | some p => .error (.misuse (.missingArgument p.name))
  | none => .ok r.given

def all (g : Grammar) (arguments : List String) : Except Stop Given := do
  (← arguments.foldlM (step g) (fresh g)).finish

end Reading

end EventProbe.CommandLine
