/-!
# References to variables

Configuration texts may refer to variables as `${NAME}` or `${NAME:-default}`. A text is read once
from left to right; what is put in the place of a reference is not read again, and a `$` that begins
no reference stands for itself.
-/

namespace EventProbe.Config

structure Reference where
  name : String
  default : Option String
  deriving DecidableEq, Repr

inductive Part where
  | char (c : Char)
  | reference (r : Reference)
  deriving DecidableEq, Repr

def beginsName (c : Char) : Bool :=
  c.isAlpha || c == '_'

def isNameChar (c : Char) : Bool :=
  c.isAlphanum || c == '_'

/-- The reference that begins a text, and its length. -/
def referenceAt (chars : List Char) : Option (Reference × Nat) :=
  match chars with
  | '$' :: '\x7b' :: rest =>
    if (rest.head?.map beginsName).getD false then
      let name := rest.takeWhile isNameChar
      match rest.drop name.length with
      | '\x7d' :: _ => some (⟨String.ofList name, none⟩, name.length + 3)
      | ':' :: '-' :: tail =>
        let text := tail.takeWhile (· != '\x7d')
        match tail.drop text.length with
        | '\x7d' :: _ =>
          some (⟨String.ofList name, some (String.ofList text)⟩, name.length + text.length + 5)
        | _ => none
      | _ => none
    else none
  | _ => none

/-- The parts of a text after the parts found so far (newest first). The next `covered` characters
belong to the last reference. -/
def splitParts : List Char → Nat → List Part → List Part
  | [], _, found => found.reverse
  | _ :: rest, covered + 1, found => splitParts rest covered found
  | c :: rest, 0, found =>
    match referenceAt (c :: rest) with
    | some (r, length) => splitParts rest (length - 1) (.reference r :: found)
    | none => splitParts rest 0 (.char c :: found)

def parts (text : String) : List Part :=
  splitParts text.toList 0 []

/-- Variables that are set for one text. They hide those of the process. -/
structure Context where
  /-- The latest binding of a name comes first. -/
  bindings : List (String × String)
  deriving DecidableEq, Repr

namespace Context

def empty : Context := ⟨[]⟩

def set (c : Context) (name value : String) : Context :=
  ⟨(name, value) :: c.bindings⟩

def lookup (c : Context) (process : String → Option String) (name : String) : Option String :=
  (c.bindings.lookup name).or (process name)

end Context

def Reference.value (lookup : String → Option String) (r : Reference) : Option String :=
  (lookup r.name).or r.default

/-- The names of the references that stand for nothing, in order. -/
def unbound (lookup : String → Option String) (ps : List Part) : List String :=
  ps.filterMap fun
    | .char _ => none
    | .reference r => if (r.value lookup).isSome then none else some r.name

def Part.chars (lookup : String → Option String) : Part → List Char
  | .char c => [c]
  | .reference r => ((r.value lookup).getD "").toList

/-- Puts values in the place of all references, or names those that have none. -/
def interpolate (lookup : String → Option String) (text : String) : Except (List String) String :=
  let ps := parts text
  match unbound lookup ps with
  | [] => .ok (String.ofList (ps.flatMap (Part.chars lookup)))
  | names => .error names

end EventProbe.Config
