import EventProbe.Extraction

/-!
# The extractor registry

Finds the extractor of a field name. Factories are asked in the order they were added, and the first
that knows the field serves it. Extractors are kept under the exact text of the name; a name that no
factory knows is looked up again next time, so that it can be served by a factory added later.
-/

namespace EventProbe

inductive ResolveFault where
  /-- It is not a field name. -/
  | badName (name : String) (fault : FieldName.Fault)
  /-- No factory knows it. -/
  | unknown (name : String)
  deriving DecidableEq, Repr

def FieldName.Fault.describe (name : String) (fault : FieldName.Fault) : String :=
  s!"invalid field name {Text.quoted name}: {fault.message}"

def ResolveFault.message : ResolveFault → String
  | .badName name fault => fault.describe name
  | .unknown name => s!"no extractor for field {name}"

/-- The factories in order, and the extractors found so far. -/
structure Extractors where
  factories : List Factory
  cache : List (String × Extractor)

namespace Extractors

/-- Adds a factory unless there is one with its id. -/
def add (r : Extractors) (f : Factory) : Bool × Extractors :=
  if r.factories.any (·.id == f.id) then (false, r)
  else (true, { r with factories := r.factories ++ [f] })

def fresh : Extractors := ⟨[Factory.generic], []⟩

def ids (r : Extractors) : List String :=
  r.factories.map (·.id)

def build (r : Extractors) (name : String) : Except ResolveFault Extractor :=
  match FieldName.parse name with
  | .error fault => .error (.badName name fault)
  | .ok field =>
    match r.factories.findSome? (·.build field) with
    | some x => .ok x
    | none => .error (.unknown name)

/-- The extractor of a field name. -/
def resolve (r : Extractors) (name : String) : Except ResolveFault Extractor × Extractors :=
  match r.cache.lookup name with
  | some x => (.ok x, r)
  | none =>
    match r.build name with
    | .ok x => (.ok x, { r with cache := (name, x) :: r.cache })
    | .error fault => (.error fault, r)

def clear (_ : Extractors) : Extractors := ⟨[], []⟩

end Extractors

end EventProbe
