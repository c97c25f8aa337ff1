import EventProbe.Text.Columns

/-!
# Grammars of commands

The parameters that a command takes, and the page that explains them.
-/

namespace EventProbe.CommandLine

inductive Purpose where
  /-- It is given or not. -/
  | flag
  /-- It has a value, for which the page shows a word. -/
  | value (word : String)
  | page
  | version
  deriving DecidableEq, Repr

structure Param where
  /-- The long name of an option; for a positional argument, how the page shows it. -/
  name : String
  short : Option Char
  purpose : Purpose
  /-- Whether it may be given more than once. -/
  many : Bool
  accepts : String → Bool
  /-- The value it has when it is not given, where the page tells it. -/
  absent : Option String
  about : String

namespace Param

def flag (name : String) (short : Option Char) (about : String) : Param :=
  ⟨name, short, .flag, false, fun _ => true, none, about⟩

def option (name word about : String) : Param :=
  ⟨name, none, .value word, false, fun _ => true, none, about⟩

def positional (name about : String) : Param :=
  ⟨name, none, .value name, false, fun _ => true, none, about⟩

def help : Param :=
  ⟨"help", some 'h', .page, false, fun _ => true, none, "Print help"⟩

def version : Param :=
  ⟨"version", some 'V', .version, false, fun _ => true, none, "Print version"⟩

def takesValue (p : Param) : Bool :=
  match p.purpose with
  | .value _ => true
  | _ => false

def label (p : Param) : String :=
  let short := match p.short with
    | some c => "-" ++ c.toString ++ ", "
    | none => "    "
  let word := match p.purpose with
    | .value word => " <" ++ word ++ ">"
    | _ => ""
  short ++ "--" ++ p.name ++ word

def explanation (p : Param) : String :=
  match p.absent with
  | some value => p.about ++ " [default: " ++ value ++ "]"
  | none => p.about

end Param

structure Grammar where
  /-- The words that lead to the command. -/
  path : List String
  about : String
  commands : List (String × String)
  positional : Option Param
  options : List Param

namespace Grammar

def usage (g : Grammar) : String :=
  let options := if g.options.isEmpty then [] else ["[OPTIONS]"]
  let commands := if g.commands.isEmpty then [] else ["<COMMAND>"]
  " ".intercalate (g.path ++ options ++ g.positional.toList.map Param.name ++ commands)

/-- The tables of the page that are not empty. -/
def tables (g : Grammar) : List String :=
  [("Commands:", g.commands),
    ("Arguments:", g.positional.toList.map fun p => (p.name, p.explanation)),
    ("Options:", g.options.map fun p => (p.label, p.explanation))].filterMap
    fun (heading, rows) => if rows.isEmpty then none else some (Text.table heading rows)

def page (g : Grammar) : String :=
  "\n\n".intercalate ([g.about, "Usage: " ++ g.usage] ++ g.tables) ++ "\n"

def long? (g : Grammar) (name : String) : Option Param :=
  g.options.find? (·.name == name)

def short? (g : Grammar) (name : Char) : Option Param :=
  g.options.find? (·.short == some name)

end Grammar

end EventProbe.CommandLine
