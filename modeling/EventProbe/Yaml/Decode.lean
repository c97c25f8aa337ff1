import EventProbe.Yaml.Parse

/-!
# Typed readers of YAML nodes

A scalar may be read as text however it is written. Truth values and nothing have their own words,
which count only if the scalar is plain. A record is a mapping without unknown or repeated keys; an
empty node is a record without members.
-/

namespace EventProbe.Yaml

/-- The node itself, or the one that an alias refers to. -/
def Document.follow (d : Document) : Node → Option Node
  | .alias id => d.anchors.find? id
  | node => some node

abbrev Reader (α : Type) := Document → Node → Option α

def coreTag (name : String) : List UInt8 :=
  ascii ("tag:yaml.org,2002:" ++ name).toList

def readText : Reader String := fun d node =>
  match d.follow node with
  | some (.scalar _ _ text) => some text
  | _ => none

def boolWord (text : String) : Option Bool :=
  if ["true", "True", "TRUE"].contains text then some true
  else if ["false", "False", "FALSE"].contains text then some false
  else none

def readBool : Reader Bool := fun d node =>
  match d.follow node with
  | some (.scalar tag style text) =>
    if style == .plain || (style == .literal && tag == some (coreTag "bool")) then boolWord text
    else none
  | _ => none

def isNullWord (text : String) : Bool :=
  ["null", "Null", "NULL", "~"].contains text

def readOption (read : Reader α) : Reader (Option α) := fun d node =>
  let present : Option (Option α) := (read d node).map some
  match d.follow node with
  | some (.scalar tag .plain text) =>
    match tag with
    | some tag =>
      if tag == coreTag "null" then (if isNullWord text then some none else none) else present
    | none => if text.isEmpty || isNullWord text then some none else present
  | _ => present

structure Member (σ : Type) where
  name : String
  given : σ → Bool
  /-- Reads it into the draft. -/
  read : σ → Reader σ

def readEntries (members : List (Member σ)) (d : Document) :
    List (Node × Node) → σ → Option σ
  | [], draft => some draft
  | (key, value) :: rest, draft =>
    match (readText d key).bind fun name => members.find? (·.name == name) with
    | none => none
    | some m =>
      if m.given draft then none
      else (m.read draft d value).bind (readEntries members d rest)

def readRecord (members : List (Member σ)) (start : σ) : Reader σ := fun d node =>
  match d.follow node with
  | some (.mapping entries) => readEntries members d entries start
  | some (.scalar _ .plain text) => if text.isEmpty then some start else none
  | _ => none

end EventProbe.Yaml
