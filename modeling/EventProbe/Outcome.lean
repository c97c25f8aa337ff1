/-!
# Outcomes

Code of plugins may succeed, fail with a reason, or panic. A panic passes through everything that
was waiting for the call and ends the operation; what was changed before it stays changed.
-/

namespace EventProbe

structure Panic where
  message : String
  deriving DecidableEq, Repr

/-- How an operation ends. -/
inductive Outcome (ε α : Type) where
  | ok (value : α)
  | failed (reason : ε)
  | panicked (panic : Panic)
  deriving DecidableEq, Repr

namespace Outcome

def map (f : α → β) : Outcome ε α → Outcome ε β
  | .ok a => .ok (f a)
  | .failed e => .failed e
  | .panicked p => .panicked p

def mapReason (f : ε → δ) : Outcome ε α → Outcome δ α
  | .ok a => .ok a
  | .failed e => .failed (f e)
  | .panicked p => .panicked p

def ofExcept : Except ε α → Outcome ε α
  | .ok a => .ok a
  | .error e => .failed e

end Outcome

end EventProbe
