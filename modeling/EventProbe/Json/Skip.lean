import EventProbe.Json.Scan

/-!
# Skipping a value

The value of an unknown key is passed over without being built. Only its form is checked, and less
strictly than that of a value that is read: numbers may be out of range and surrogates unpaired.
-/

namespace EventProbe.Json

inductive SkipMode where
  | plain
  | escape
  | unit (count : Nat)

def skipString : List Char → SkipMode → Except Fault (List Char)
  | [], _ => .error (here .endInString [])
  | c :: rest, .plain =>
    if c = '"' then .ok rest
    else if c = '\\' then skipString rest .escape
    else if c.toNat < 0x20 then .error (here .controlCharacter (c :: rest))
    else skipString rest .plain
  | c :: rest, .escape =>
    if c = 'u' then skipString rest (.unit 0)
    else if (shortEscape c).isSome then skipString rest .plain
    else .error (ahead .invalidEscape (c :: rest))
  | c :: rest, .unit count =>
    if (hexValue c).isNone then .error (hexFault count (c :: rest))
    else if count < 3 then skipString rest (.unit (count + 1))
    else skipString rest .plain

def skipExponent (rest : List Char) : Except Fault (List Char) :=
  let rest := match rest with
    | '+' :: rest => rest
    | '-' :: rest => rest
    | rest => rest
  if digitNext rest then .ok (skipDigits rest) else .error (ahead .invalidNumber rest)

def skipNumberTail (rest : List Char) : Except Fault (List Char) :=
  match rest with
  | '.' :: rest =>
    if digitNext rest then
      let rest := skipDigits rest
      if exponentNext rest then skipExponent (rest.drop 1) else .ok rest
    else .error (ahead .invalidNumber rest)
  | rest => if exponentNext rest then skipExponent (rest.drop 1) else .ok rest

def skipNumber (rest : List Char) : Except Fault (List Char) :=
  match rest with
  | '0' :: rest =>
    if digitNext rest then .error (ahead .invalidNumber rest) else skipNumberTail rest
  | rest =>
    if digitNext rest then skipNumberTail (skipDigits rest)
    else .error (ahead .invalidNumber rest)

inductive Frame where
  | list
  | object
  deriving DecidableEq

/-- What comes next inside the innermost frame. -/
inductive SkipState where
  | value
  /-- A comma or the end, or, just after the opening, the first entry or the end. -/
  | after (opened : Bool)
  /-- An entry: a value, or a key and a value. -/
  | entry

/-- Passes over a value inside the given frames, innermost first. Two steps are enough for every
character. -/
def skipFrames : Nat → SkipState → List Frame → List Char → Except Fault (List Char)
  | 0, _, _, rest => .error (here .endInValue rest)
  | steps + 1, .value, frames, rest =>
    let rest := skipSpace rest
    let continueWith (result : Except Fault (List Char)) : Except Fault (List Char) :=
      match result with
      | .ok rest => if frames.isEmpty then .ok rest else skipFrames steps (.after false) frames rest
      | .error f => .error f
    match rest with
    | [] => .error (here .endInValue [])
    | 'n' :: rest => continueWith (literal "ull".toList rest)
    | 't' :: rest => continueWith (literal "rue".toList rest)
    | 'f' :: rest => continueWith (literal "alse".toList rest)
    | '-' :: rest => continueWith (skipNumber rest)
    | '"' :: rest => continueWith (skipString rest .plain)
    | '[' :: rest => skipFrames steps (.after true) (.list :: frames) rest
    | '\x7b' :: rest => skipFrames steps (.after true) (.object :: frames) rest
    | c :: tail =>
      if isDigit c then continueWith (skipNumber (c :: tail))
      else .error (ahead .expectedValue (c :: tail))
  | _ + 1, .after _, [], rest => .ok rest
  | steps + 1, .after opened, frame :: frames, rest =>
    let closes (c : Char) : Bool := match frame with
      | .list => c == ']'
      | .object => c == '\x7d'
    match skipSpace rest with
    | [] => .error (here (match frame with | .list => .endInList | .object => .endInObject) [])
    | c :: tail =>
      if c = ',' ∧ !opened then skipFrames steps .entry (frame :: frames) tail
      else if closes c then
        if frames.isEmpty then .ok tail else skipFrames steps (.after false) frames tail
      else if opened then skipFrames steps .entry (frame :: frames) (c :: tail)
      else .error (ahead (match frame with
        | .list => .expectedListCommaOrEnd
        | .object => .expectedObjectCommaOrEnd) (c :: tail))
  | steps + 1, .entry, .object :: frames, rest =>
    match skipSpace rest with
    | [] => .error (here .endInObject [])
    | '"' :: tail =>
      match skipString tail .plain with
      | .error f => .error f
      | .ok rest =>
        match skipSpace rest with
        | [] => .error (here .endInObject [])
        | ':' :: rest => skipFrames steps .value (.object :: frames) rest
        | rest => .error (ahead .expectedColon rest)
    | rest => .error (ahead .keyMustBeString rest)
  | steps + 1, .entry, frames, rest => skipFrames steps .value frames rest

def skipValue (rest : List Char) : Except Fault (List Char) :=
  skipFrames (3 * rest.length + 3) .value [] rest

end EventProbe.Json
