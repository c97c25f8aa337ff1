import EventProbe.Plugin.Api

/-!
# Scripted plugins

A plugin that does what a script says: which batches its sources deliver, which calls fail or panic,
and what its fields are. It is for trying out how the rest of the library bears any behaviour of
plugins.
-/

namespace EventProbe

namespace Scripted

inductive Refusal where
  | fail (message : String)
  | panic (message : String)
  deriving DecidableEq, Repr

def Refusal.outcome : Refusal → Outcome String α
  | .fail message => .failed message
  | .panic message => .panicked ⟨message⟩

inductive Step where
  | batch (batch : Batch)
  | panic (message : String)
  deriving DecidableEq, Repr

inductive Rendering where
  | refuse (refusal : Refusal)
  /-- A text, then the data of the event. -/
  | labelled (label : String)
  deriving DecidableEq, Repr

/-- What a field yields. -/
inductive Answer where
  | refuse (refusal : Refusal)
  | values (list : List Extracted)
  /-- A text that tells what was asked for. -/
  | echo
  deriving Repr

/-- What a field yields without and with byte ranges. -/
structure FieldScript where
  plain : Answer
  withOffsets : Option Answer
  deriving Repr

end Scripted

/-- A script. -/
structure Scripted where
  /-- Parameters for which no source is opened, with the reason. -/
  openReject : Option (String × String)
  /-- What sources deliver; none if there are no sources. -/
  steps : Option (List Scripted.Step)
  rendering : Scripted.Rendering
  /-- Data of events that are refused. -/
  parsing : List (List UInt8 × Scripted.Refusal)
  /-- What the named fields yield. -/
  fields : List (String × Scripted.FieldScript)
  metrics : List Metric

namespace Scripted

def echoText (r : Request) : String :=
  let index := (r.argIndex.map toString).getD "-"
  let key := r.argKey.getD "-"
  s!"id={r.fieldId} index={index} key={key} offsets={r.offsets}"

def Answer.outcome (r : Request) : Answer → Outcome String (List Extracted)
  | .refuse refusal => refusal.outcome
  | .values list => .ok list
  | .echo => .ok [.plain (.text (echoText r))]

def FieldScript.answer (f : FieldScript) (offsets : Bool) : Answer :=
  if offsets then f.withOffsets.getD f.plain else f.plain

/-- A source holds the entries that are left. -/
abbrev Stream := List Step

instance : Plugin Scripted Stream where
  openSource p params :=
    match p.steps, p.openReject with
    | none, _ => (.failed "plugin does not generate events", p)
    | some steps, some (bad, message) =>
      (if params = bad then .failed message else .ok steps, p)
    | some steps, none => (.ok steps, p)
  nextBatch p s :=
    match s with
    | [] => (.ok .endOfStream, p, [])
    | .batch b :: rest => (.ok b, p, rest)
    | .panic message :: rest => (.error ⟨message⟩, p, rest)
  render p e :=
    match p.rendering with
    | .refuse refusal => (refusal.outcome, p)
    | .labelled label => (.ok (label ++ e.text), p)
  extract p r :=
    match p.fields.lookup r.field.name with
    | some f => ((f.answer r.offsets).outcome r, p)
    | none => (.ok [], p)
  parse p e :=
    match p.parsing.lookup e.data with
    | some refusal => (refusal.outcome, p)
    | none => (.ok (), p)
  metrics p := (.ok p.metrics, p)

/-- A plugin with a manifest and a script. It does not accept the configuration that `reject` names,
with the reason given there. -/
def descriptor (manifest : Manifest) (reject : Option (String × String)) (script : Scripted) :
    Descriptor Scripted where
  manifest := manifest
  init config :=
    match reject with
    | some (bad, message) => if config = bad then .failed message else .ok script
    | none => .ok script

end Scripted

end EventProbe
