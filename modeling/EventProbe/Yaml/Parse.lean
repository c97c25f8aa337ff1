import EventProbe.Yaml.Scan

/-!
# The YAML grammar

Builds the tree of a document from its tokens. A node that carries an anchor is also entered in a
table, so that aliases can be followed; an anchor that is set again leads to the later node.
-/

namespace EventProbe.Yaml

inductive Node where
  /-- A reference to an anchored node. -/
  | alias (id : Nat)
  | scalar (tag : Option (List UInt8)) (style : Style) (text : String)
  | sequence (items : List Node)
  | mapping (entries : List (Node × Node))
  deriving Repr

def Node.empty : Node := .scalar none .plain ""

structure Anchors where
  /-- The names of anchors and the ids that aliases refer to. -/
  names : List (List Char × Nat)
  /-- For every id the number of its node, latest first. -/
  targets : List (Nat × Nat)
  /-- The nodes by number. -/
  nodes : List (Nat × Node)
  /-- Number of anchored nodes so far. -/
  count : Nat

namespace Anchors

def none : Anchors := ⟨[], [], [], 0⟩

/-- Sets an anchor to the node that begins now; also the number of that node. The id is the number
of names known so far. -/
def set (a : Anchors) (name : List Char) : Anchors × Nat :=
  let id := a.names.length
  let names := (name, id) :: a.names.filter (·.1 != name)
  ({ a with names, targets := (id, a.count) :: a.targets, count := a.count + 1 }, a.count)

def enter (a : Anchors) (number : Nat) (node : Node) : Anchors :=
  { a with nodes := (number, node) :: a.nodes }

/-- The node that an alias refers to. -/
def find? (a : Anchors) (id : Nat) : Option Node :=
  (a.targets.lookup id).bind fun number => a.nodes.lookup number

end Anchors

structure Parser where
  tokens : List Token
  /-- The meanings of tag handles. -/
  handles : List (List UInt8 × List UInt8)
  anchors : Anchors

namespace Parser

def skip (p : Parser) : Parser :=
  { p with tokens := p.tokens.drop 1 }

/-- The tag with a handle and a suffix. -/
def resolveTag (p : Parser) (handle suffix : List UInt8) : Option (List UInt8) :=
  if handle.isEmpty then some suffix else (p.handles.lookup handle).map (· ++ suffix)

/-- The anchor and the tag before a node. -/
structure Properties where
  anchor : Option (List Char)
  tag : Option (List UInt8)

/-- Reads an anchor and a tag, in any order. -/
def properties (p : Parser) : Option (Properties × Parser) :=
  match p.tokens with
  | .anchor name :: .tag handle suffix :: rest =>
    (p.resolveTag handle suffix).map fun tag => (⟨name, tag⟩, { p with tokens := rest })
  | .tag handle suffix :: .anchor name :: rest =>
    (p.resolveTag handle suffix).map fun tag => (⟨name, tag⟩, { p with tokens := rest })
  | .anchor name :: rest => some (⟨name, none⟩, { p with tokens := rest })
  | .tag handle suffix :: rest =>
    (p.resolveTag handle suffix).map fun tag => (⟨none, tag⟩, { p with tokens := rest })
  | _ => some (⟨none, none⟩, p)

/-- Whether one of the tokens that end an entry of a block mapping comes next. -/
def atMappingEdge (p : Parser) : Bool :=
  match p.tokens with
  | .key :: _ => true
  | .value :: _ => true
  | .blockEnd :: _ => true
  | _ => false

def atSequenceEdge (p : Parser) : Bool :=
  match p.tokens with
  | .blockEntry :: _ => true
  | .blockEnd :: _ => true
  | _ => false

def atFlowEdge (p : Parser) : Bool :=
  match p.tokens with
  | .flowEntry :: _ => true
  | .flowSequenceEnd :: _ => true
  | .flowMappingEnd :: _ => true
  | _ => false

/-- The tag of a scalar: a lone exclamation mark is no tag. -/
def scalarTag (tag : Option (List UInt8)) : Option (List UInt8) :=
  if tag == some [0x21] then none else tag

mutual

/-- Reads a node. `block` tells whether block collections may begin here, `indentless` whether a
sequence may begin here without indentation. -/
def node : Nat → Bool → Bool → Parser → Option (Node × Parser)
  | 0, _, _, _ => none
  | steps + 1, block, indentless, p =>
    match p.tokens with
    | .alias name :: _ => (p.anchors.names.lookup name).map fun id => (.alias id, p.skip)
    | _ => do
      let (props, p) ← p.properties
      match props.anchor with
      | none => content steps block indentless props p
      | some name =>
        let (anchors, number) := p.anchors.set name
        let (node, p) ← content steps block indentless props { p with anchors }
        some (node, { p with anchors := p.anchors.enter number node })

def content : Nat → Bool → Bool → Properties → Parser → Option (Node × Parser)
  | 0, _, _, _, _ => none
  | steps + 1, block, indentless, props, p =>
    let bare : Option (Node × Parser) :=
      if props.anchor.isSome || props.tag.isSome then some (.scalar props.tag .plain "", p)
      else none
    match p.tokens with
    | .blockEntry :: _ =>
      if indentless then
        (indentlessItems steps [] p).map fun (items, p) => (.sequence items, p)
      else bare
    | .scalar style text :: _ => some (.scalar (scalarTag props.tag) style text, p.skip)
    | .flowSequenceStart :: _ =>
      (flowItems steps true [] p.skip).map fun (items, p) => (.sequence items, p)
    | .flowMappingStart :: _ =>
      (flowEntries steps true [] p.skip).map fun (entries, p) => (.mapping entries, p)
    | .blockSequenceStart :: _ =>
      if block then (blockItems steps [] p.skip).map fun (items, p) => (.sequence items, p)
      else bare
    | .blockMappingStart :: _ =>
      if block then (blockEntries steps [] p.skip).map fun (entries, p) => (.mapping entries, p)
      else bare
    | _ => bare

/-- Reads the entries of a block sequence, after those found so far (newest first). -/
def blockItems : Nat → List Node → Parser → Option (List Node × Parser)
  | 0, _, _ => none
  | steps + 1, found, p =>
    match p.tokens with
    | .blockEntry :: _ =>
      let p := p.skip
      if p.atSequenceEdge then blockItems steps (.empty :: found) p
      else do
        let (item, p) ← node steps true false p
        blockItems steps (item :: found) p
    | .blockEnd :: _ => some (found.reverse, p.skip)
    | _ => none

def indentlessItems : Nat → List Node → Parser → Option (List Node × Parser)
  | 0, _, _ => none
  | steps + 1, found, p =>
    match p.tokens with
    | .blockEntry :: _ =>
      let p := p.skip
      if p.atSequenceEdge || p.atMappingEdge then indentlessItems steps (.empty :: found) p
      else do
        let (item, p) ← node steps true false p
        indentlessItems steps (item :: found) p
    | _ => some (found.reverse, p)

def blockEntries : Nat → List (Node × Node) → Parser → Option (List (Node × Node) × Parser)
  | 0, _, _ => none
  | steps + 1, found, p =>
    match p.tokens with
    | .key :: _ => do
      let p := p.skip
      let (key, p) ← if p.atMappingEdge then some (.empty, p) else node steps true true p
      let (value, p) ← blockValue steps p
      blockEntries steps ((key, value) :: found) p
    | .blockEnd :: _ => some (found.reverse, p.skip)
    | _ => none

def blockValue : Nat → Parser → Option (Node × Parser)
  | 0, _ => none
  | steps + 1, p =>
    match p.tokens with
    | .value :: _ =>
      let p := p.skip
      if p.atMappingEdge then some (.empty, p) else node steps true true p
    | _ => some (.empty, p)

/-- Reads the entries of a flow sequence. An entry may be a mapping of one entry. -/
def flowItems : Nat → Bool → List Node → Parser → Option (List Node × Parser)
  | 0, _, _, _ => none
  | steps + 1, first, found, p =>
    match p.tokens with
    | .flowSequenceEnd :: _ => some (found.reverse, p.skip)
    | _ => do
      let p ← match first, p.tokens with
        | true, _ => some p
        | false, .flowEntry :: _ => some p.skip
        | false, _ => none
      match p.tokens with
      | .flowSequenceEnd :: _ => some (found.reverse, p.skip)
      | .key :: _ =>
        let p := p.skip
        let (key, p) ← match p.tokens with
          | .value :: _ => some (.empty, p)
          | _ => if p.atFlowEdge then some (.empty, p) else node steps false false p
        let (value, p) ← flowValue steps p
        flowItems steps false (.mapping [(key, value)] :: found) p
      | _ =>
        let (item, p) ← node steps false false p
        flowItems steps false (item :: found) p

def flowEntries : Nat → Bool → List (Node × Node) → Parser → Option (List (Node × Node) × Parser)
  | 0, _, _, _ => none
  | steps + 1, first, found, p =>
    match p.tokens with
    | .flowMappingEnd :: _ => some (found.reverse, p.skip)
    | _ => do
      let p ← match first, p.tokens with
        | true, _ => some p
        | false, .flowEntry :: _ => some p.skip
        | false, _ => none
      match p.tokens with
      | .flowMappingEnd :: _ => some (found.reverse, p.skip)
      | .key :: _ =>
        let p := p.skip
        let (key, p) ← match p.tokens with
          | .value :: _ => some (.empty, p)
          | .flowEntry :: _ => some (.empty, p)
          | .flowMappingEnd :: _ => some (.empty, p)
          | _ => node steps false false p
        let (value, p) ← flowValue steps p
        flowEntries steps false ((key, value) :: found) p
      | _ =>
        let (key, p) ← node steps false false p
        flowEntries steps false ((key, .empty) :: found) p

def flowValue : Nat → Parser → Option (Node × Parser)
  | 0, _ => none
  | steps + 1, p =>
    match p.tokens with
    | .value :: _ =>
      let p := p.skip
      if p.atFlowEdge then some (.empty, p) else node steps false false p
    | _ => some (.empty, p)

end

/-- Reads directives: a version at most once, and each tag handle at most once. -/
def directives : List Token → Bool → List (List UInt8 × List UInt8) →
    Option (List (List UInt8 × List UInt8) × List Token)
  | .versionDirective major minor :: rest, versioned, handles =>
    if versioned || major != 1 || (minor != 1 && minor != 2) then none
    else directives rest true handles
  | .tagDirective handle uri :: rest, versioned, handles =>
    if (handles.lookup handle).isSome then none
    else directives rest versioned ((handle, uri) :: handles)
  | rest, _, handles => some (handles, rest)

def standardHandles : List (List UInt8 × List UInt8) :=
  [(ascii ['!'], ascii ['!']), (ascii ['!', '!'], ascii "tag:yaml.org,2002:".toList)]

def contentMissing (tokens : List Token) : Bool :=
  match tokens with
  | [] => true
  | .versionDirective _ _ :: _ => true
  | .tagDirective _ _ :: _ => true
  | .documentStart :: _ => true
  | .documentEnd :: _ => true
  | _ => false

def body (handles : List (List UInt8 × List UInt8)) (tokens : List Token) :
    Option (Node × Parser) :=
  node (4 * tokens.length + 4) true false ⟨tokens, handles ++ standardHandles, Anchors.none⟩

end Parser

structure Document where
  root : Node
  anchors : Anchors

def beginsExplicitly : List Token → Bool
  | .versionDirective _ _ :: _ => true
  | .tagDirective _ _ :: _ => true
  | .documentStart :: _ => true
  | _ => false

/-- Reads the tokens of a stream of at most one document. -/
def document (tokens : List Token) : Option Document :=
  let single (result : Node × Parser) : Option Document :=
    let (root, p) := result
    if (p.tokens.dropWhile (· == .documentEnd)).isEmpty then some ⟨root, p.anchors⟩ else none
  if tokens.isEmpty then some ⟨.empty, Anchors.none⟩
  else if beginsExplicitly tokens then do
    let (handles, tokens) ← Parser.directives tokens false []
    match tokens with
    | .documentStart :: rest =>
      if Parser.contentMissing rest then single (.empty, ⟨rest, [], Anchors.none⟩)
      else (Parser.body handles rest).bind single
    | _ => none
  else (Parser.body [] tokens).bind single

def parse (text : String) : Option Document :=
  (scan text).bind document

end EventProbe.Yaml
