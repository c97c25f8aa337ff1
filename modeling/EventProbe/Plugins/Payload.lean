import EventProbe.Plugin.Api

/-!
# The plugin `payload`

Extracts fields from the events of `countdown`.
-/

namespace EventProbe

/-- The plugin has no state. -/
structure Payload where
  deriving DecidableEq, Repr

namespace Payload

def mostRepeats : Nat := 64

def fields : List FieldInfo := [
  ⟨"payload.data", .string, false, .none, "the whole payload"⟩,
  ⟨"payload.data_with_range", .string, false, .none,
    "the whole payload, reporting its byte range"⟩,
  ⟨"payload.repeated", .string, true, .anIndex, "the payload repeated N times"⟩,
  ⟨"payload.remaining", .uint64, false, .none, "the number of events remaining"⟩,
  ⟨"payload.word", .string, false, .anIndex, "the N-th space separated word of the payload"⟩]

/-- The word at an index among words that begin at `position`, with its position in bytes. There is
none where two blanks meet. -/
def nthWord : List (List Char) → Nat → Nat → Option (Nat × List Char)
  | [], _, _ => none
  | word :: _, 0, position => if word.isEmpty then none else some (position, word)
  | word :: rest, index + 1, position => nthWord rest index (position + Utf8.width word + 1)

def leadingNumber (payload : String) : Outcome String (List Extracted) :=
  let digits := payload.toList.takeWhile fun c => (Numeral.digit? c).isSome
  if digits.isEmpty then .failed s!"payload {Text.quoted payload} does not start with a number"
  else match Numeral.read digits with
    | .ok n => .ok [.located (.number n) 0 digits.length]
    | .error fault => .failed fault.message

def values (r : Request) (payload : String) : Outcome String (List Extracted) :=
  let text : FieldValue := .text payload
  let whole : Extracted := .located text 0 r.event.data.length
  match r.field.name with
  | "payload.data" => .ok [.plain text]
  | "payload.data_with_range" => .ok [if r.offsets then whole else .plain text]
  | "payload.repeated" =>
    let count := r.argIndex.getD 1
    if mostRepeats < count then .failed s!"repeat count {count} exceeds {mostRepeats}"
    else .ok (List.replicate count whole)
  | "payload.remaining" => leadingNumber payload
  | "payload.word" =>
    match nthWord (payload.toList.splitOn ' ') (r.argIndex.getD 0) 0 with
    | some (start, word) => .ok [.located (.text (String.ofList word)) start (Utf8.width word)]
    | none => .ok []
  | other => .failed s!"unknown field {other}"

instance : Plugin Payload Empty where
  extract p r :=
    match Utf8.decode r.event.data with
    | .ok payload => (values r payload, p)
    | .error fault => (.failed fault.message, p)

def descriptor : Descriptor Payload where
  manifest := {
    name := "payload"
    version := "0.1.0"
    description := "extracts fields from countdown payloads"
    capabilities := .of [.fieldExtraction]
    eventSource := none
    extractSources := ["countdown"]
    fields := fields }
  init _ := .ok {}

end Payload

end EventProbe
