import EventProbe.Json.Skip

/-!
# Typed readers

Readers for the kinds of values that documents are made of: numbers of a given range, truth values,
texts, records with named members, and choices between named variants. A record may also be written
as a list of its members in order.
-/

namespace EventProbe.Json

/-! ## Scalars -/

/-- Reads a number of any kind, which is called `expected` in messages, and converts it. -/
def readNumber (expected : String) (convert : Number → Except Code α) : Reader α :=
  fun input =>
    let rest := skipSpace input
    let converted (result : Except Fault (Number × List Char)) : Except Fault (α × List Char) :=
      match result with
      | .error f => .error f
      | .ok (n, rest) =>
        match convert n with
        | .ok value => .ok (value, rest)
        | .error code => .error (here code rest)
    match rest with
    | [] => .error (here .endInValue [])
    | '-' :: rest => converted (number true rest)
    | c :: _ => if isDigit c then converted (number false rest) else .error (mismatch expected rest)

def readNatural (expected : String) (limit : Nat) : Reader Nat :=
  readNumber expected fun n =>
    match n with
    | .natural v => if v < limit then .ok v else .error (.invalidValue n.found expected)
    | .negative _ => .error (.invalidValue n.found expected)
    | .real _ => .error (.invalidType n.found expected)

/-- Reads an integer of so many bits in two's complement. -/
def readInteger (expected : String) (bits : Nat) : Reader Int :=
  readNumber expected fun n =>
    match n with
    | .natural v =>
      if v < Nat.pow 2 (bits - 1) then .ok v else .error (.invalidValue n.found expected)
    | .negative v =>
      if v ≤ Nat.pow 2 (bits - 1) then .ok (-v) else .error (.invalidValue n.found expected)
    | .real _ => .error (.invalidType n.found expected)

def readReal (expected : String) (format : Ieee.Format) : Reader Nat :=
  readNumber expected fun n =>
    match n with
    | .natural v => .ok (format.nearest v 1)
    | .negative v => .ok (format.signed true (format.nearest v 1))
    | .real bits => .ok (Ieee.double.convert format bits)

def readBool : Reader Bool :=
  fun input =>
    match skipSpace input with
    | [] => .error (here .endInValue [])
    | 't' :: rest => (literal "rue".toList rest).map fun rest => (true, rest)
    | 'f' :: rest => (literal "alse".toList rest).map fun rest => (false, rest)
    | rest => .error (mismatch "a boolean" rest)

def readTextAs (expected : String) (convert : String → Except Code α) : Reader α :=
  fun input =>
    match skipSpace input with
    | [] => .error (here .endInValue [])
    | '"' :: rest =>
      match string rest with
      | .error f => .error f
      | .ok (s, rest) =>
        match convert s with
        | .ok value => .ok (value, rest)
        | .error code => .error (here code rest)
    | rest => .error (mismatch expected rest)

def readText : Reader String :=
  readTextAs "a string" .ok

def readNull : Reader Unit :=
  fun input =>
    match skipSpace input with
    | [] => .error (here .endInValue [])
    | 'n' :: rest => (literal "ull".toList rest).map fun rest => ((), rest)
    | rest => .error (mismatch "unit" rest)

def readOption (read : Reader α) : Reader (Option α) :=
  fun input =>
    match skipSpace input with
    | 'n' :: rest => (literal "ull".toList rest).map fun rest => (none, rest)
    | rest => (read rest).map fun (value, rest) => (some value, rest)

/-! ## Records -/

/-- What ends the reading of members: a fault with its place, or one that is placed where the
enclosing braces or brackets are left. -/
inductive Stop where
  | placed (fault : Fault)
  | unplaced (code : Code) (rest : List Char)

/-- A member of a record that is read into a draft `σ`. -/
structure Member (σ : Type) where
  name : String
  /-- Whether it may be missing at the end of a list. -/
  optional : Bool
  given : σ → Bool
  read : σ → Reader σ

structure Layout (σ α : Type) where
  title : String
  strict : Bool
  start : σ
  members : List (Member σ)
  /-- The record of a draft, or the name of a missing member. -/
  finish : σ → Except String α

/-- Reads the next key of an object, or finds its end, which stays unread. -/
def nextKey (first : Bool) (input : List Char) : Except Fault (Option String × List Char) :=
  let key (rest : List Char) : Except Fault (Option String × List Char) :=
    match rest with
    | [] => .error (here .endInValue [])
    | '"' :: rest => (string rest).map fun (s, rest) => (some s, rest)
    | '\x7d' :: _ => .error (ahead .trailingComma rest)
    | rest => .error (ahead .keyMustBeString rest)
  match skipSpace input with
  | [] => .error (here .endInObject [])
  | '\x7d' :: rest => .ok (none, '\x7d' :: rest)
  | c :: rest =>
    if first then key (c :: rest)
    else if c = ',' then key (skipSpace rest)
    else .error (ahead .expectedObjectCommaOrEnd (c :: rest))

def skipColon (input : List Char) : Except Fault (List Char) :=
  match skipSpace input with
  | [] => .error (here .endInObject [])
  | ':' :: rest => .ok rest
  | rest => .error (ahead .expectedColon rest)

/-- Reads the members of an object up to its end. One step is enough for every key. -/
def readMembers (l : Layout σ α) : Nat → Bool → σ → List Char → Except Stop (σ × List Char)
  | 0, _, _, rest => .error (.placed (here .endInObject rest))
  | steps + 1, first, draft, rest =>
    match nextKey first rest with
    | .error f => .error (.placed f)
    | .ok (none, rest) => .ok (draft, rest)
    | .ok (some key, rest) =>
      match l.members.find? (·.name == key) with
      | none =>
        if l.strict then .error (.unplaced (.unknownField key (l.members.map (·.name))) rest)
        else match (skipColon rest).bind skipValue with
          | .error f => .error (.placed f)
          | .ok rest => readMembers l steps false draft rest
      | some m =>
        if m.given draft then .error (.unplaced (.duplicateField m.name) rest)
        else match (skipColon rest).bind (m.read draft) with
          | .error f => .error (.placed f)
          | .ok (draft, rest) => readMembers l steps false draft rest

/-- Whether a list has another element; passes over the comma before it. -/
def nextElement (first : Bool) (input : List Char) : Except Fault (Bool × List Char) :=
  match skipSpace input with
  | [] => .error (here .endInList [])
  | ']' :: rest => .ok (false, ']' :: rest)
  | c :: rest =>
    if first then .ok (true, c :: rest)
    else if c = ',' then
      match skipSpace rest with
      | [] => .error (here .endInValue [])
      | ']' :: rest => .error (ahead .trailingComma (']' :: rest))
      | rest => .ok (true, rest)
    else .error (ahead .expectedListCommaOrEnd (c :: rest))

def readElements (l : Layout σ α) :
    List (Member σ) → Nat → σ → List Char → Except Stop (σ × List Char)
  | [], _, draft, rest => .ok (draft, rest)
  | m :: members, count, draft, rest =>
    match nextElement (count == 0) rest with
    | .error f => .error (.placed f)
    | .ok (true, rest) =>
      match m.read draft rest with
      | .error f => .error (.placed f)
      | .ok (draft, rest) => readElements l members (count + 1) draft rest
    | .ok (false, rest) =>
      if m.optional then readElements l members (count + 1) draft rest
      else .error (.unplaced (.invalidLength count
        s!"{l.title} with {l.members.length} elements") rest)

def endObject (input : List Char) : Except Fault (List Char) :=
  match skipSpace input with
  | [] => .error (here .endInObject [])
  | '\x7d' :: rest => .ok rest
  | ',' :: rest => .error (ahead .trailingComma (',' :: rest))
  | rest => .error (ahead .trailingCharacters rest)

def endList (input : List Char) : Except Fault (List Char) :=
  match skipSpace input with
  | [] => .error (here .endInList [])
  | ']' :: rest => .ok rest
  | ',' :: rest =>
    match skipSpace rest with
    | ']' :: rest => .error (ahead .trailingComma (']' :: rest))
    | rest => .error (ahead .trailingCharacters rest)
  | rest => .error (ahead .trailingCharacters rest)

/-- Where a fault of the members of an object is placed: past the end of the object if it comes
next. -/
def leaveObject (input : List Char) : List Char :=
  match skipSpace input with
  | '\x7d' :: rest => rest
  | rest => rest

/-- Where a fault of the elements of a list is placed: past the end of the list if it comes next,
or past a comma. -/
def leaveList (input : List Char) : List Char :=
  match skipSpace input with
  | ']' :: rest => rest
  | ',' :: rest => skipSpace rest
  | rest => rest

def closeRecord (l : Layout σ α) (close : List Char → Except Fault (List Char))
    (leave : List Char → List Char) (result : Except Stop (σ × List Char)) :
    Except Fault (α × List Char) :=
  match result with
  | .error (.placed f) => .error f
  | .error (.unplaced code rest) => .error (here code (leave rest))
  | .ok (draft, rest) =>
    match l.finish draft with
    | .error name => .error (here (.missingField name) (leave rest))
    | .ok value => (close rest).map fun rest => (value, rest)

def readRecord (l : Layout σ α) : Reader α :=
  fun input =>
    match skipSpace input with
    | [] => .error (here .endInValue [])
    | '\x7b' :: rest =>
      closeRecord l endObject leaveObject (readMembers l (rest.length + 1) true l.start rest)
    | '[' :: rest => closeRecord l endList leaveList (readElements l l.members 0 l.start rest)
    | rest => .error (mismatch l.title rest)

/-! ## Choices -/

def readVariant (variants : List (String × α)) : Reader α :=
  readTextAs "variant identifier" fun name =>
    match variants.lookup name with
    | some value => .ok value
    | none => .error (.unknownVariant name (variants.map (·.1)))

def variantBody (read : Reader α) : Reader α :=
  fun input =>
    match skipColon input with
    | .error f => .error f
    | .ok rest =>
      match read rest with
      | .error f => .error f
      | .ok (value, rest) =>
        match skipSpace rest with
        | [] => .error (here .endInObject [])
        | '\x7d' :: rest => .ok (value, rest)
        | rest => .error (here .expectedValue rest)

/-- Reads a choice. `bare` is for a variant that is written as its name alone, `full` for one that
is written in braces with a value. -/
def readChoiceWith (variants : List (String × β)) (bare : β → Except Fault α)
    (full : β → Reader α) : Reader α :=
  fun input =>
    match skipSpace input with
    | [] => .error (here .endInValue [])
    | '\x7b' :: rest =>
      match readVariant variants rest with
      | .error f => .error f
      | .ok (v, rest) => variantBody (full v) rest
    | '"' :: rest =>
      match readVariant variants ('"' :: rest) with
      | .error f => .error f
      | .ok (v, rest) => (bare v).map fun value => (value, rest)
    | rest => .error (ahead .expectedValue rest)

def readChoice (variants : List (String × α)) : Reader α :=
  readChoiceWith variants .ok fun value input =>
    (readNull input).map fun (_, rest) => (value, rest)

def readTagged (variants : List (String × Reader α)) : Reader α :=
  readChoiceWith variants
    (fun _ => .error ⟨.invalidType .bareVariant "newtype variant", none⟩) id

/-! ## Documents -/

def decodeChars (read : Reader α) (input : List Char) : Except Fault α :=
  match read input with
  | .error f => .error f
  | .ok (value, rest) =>
    match skipSpace rest with
    | [] => .ok value
    | rest => .error (ahead .trailingCharacters rest)

def decode (read : Reader α) (input : String) : Except String α :=
  (decodeChars read input.toList).mapError fun f => f.message input.toList

end EventProbe.Json
