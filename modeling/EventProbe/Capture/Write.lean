import EventProbe.Capture.Format
import EventProbe.IoFault

/-!
# Writing capture files

Records are written one at a time to a sink that may refuse any piece. A line is two pieces, its text
and its end. What a sink keeps of a piece that it refuses is its own matter; a memory keeps nothing.
-/

namespace EventProbe.Capture

/-- Something that bytes are written to. -/
class Sink (σ : Type) where
  /-- Takes a piece, or refuses it. -/
  write : σ → List UInt8 → Except IoFault Unit × σ
  /-- Brings everything taken to its place. -/
  flush : σ → Except IoFault Unit × σ

inductive WriteFault where
  /-- The text of the line was refused. -/
  | text (fault : IoFault)
  /-- The end of the line was refused, or flushing failed. -/
  | io (fault : IoFault)
  deriving DecidableEq, Repr

def WriteFault.message : WriteFault → String
  | .text fault => s!"JSON serialization error: {fault.message}"
  | .io fault => fault.message

structure Writer (σ : Type) where
  out : σ
  written : Nat

variable [Sink σ]

def writeLine (out : σ) (text : List Char) : Except WriteFault Unit × σ :=
  match Sink.write out (Utf8.encode (String.ofList text)) with
  | (.error fault, out) => (.error (.text fault), out)
  | (.ok _, out) =>
    match Sink.write out [0x0A] with
    | (.error fault, out) => (.error (.io fault), out)
    | (.ok _, out) => (.ok (), out)

namespace Writer

def start (out : σ) (createdAt : Instant) : Except WriteFault (Writer σ) :=
  match writeLine out (Header.current createdAt).json with
  | (.error fault, _) => .error fault
  | (.ok _, out) => .ok ⟨out, 0⟩

def write (w : Writer σ) (r : Record) : Except WriteFault Unit × Writer σ :=
  match writeLine w.out r.json with
  | (.error fault, out) => (.error fault, { w with out })
  | (.ok _, out) => (.ok (), ⟨out, w.written + 1⟩)

def finish (w : Writer σ) : Except WriteFault σ :=
  match Sink.flush w.out with
  | (.error fault, _) => .error (.io fault)
  | (.ok _, out) => .ok out

end Writer

/-! ## Memory -/

/-- Which pieces a full memory refuses. -/
inductive Refusal where
  | everything
  | lineEnds
  | texts
  | flushes
  deriving DecidableEq, Repr

/-- A sink in memory, which may be full once it holds some number of lines. -/
structure Memory where
  /-- The pieces taken, newest first. -/
  pieces : List (List UInt8)
  /-- After how many lines it is full, and what it refuses then. -/
  capacity : Option (Nat × Refusal)

namespace Memory

def unlimited : Memory := ⟨[], none⟩

def bytes (m : Memory) : List UInt8 :=
  m.pieces.reverse.flatten

def lines (m : Memory) : Nat :=
  m.pieces.foldl (fun n piece => n + piece.count 0x0A) 0

/-- Whether the memory is full and refuses pieces of some kind. -/
def refuses (m : Memory) (kinds : List Refusal) : Bool :=
  match m.capacity with
  | some (after, refusal) => kinds.contains refusal && decide (after ≤ m.lines)
  | none => false

instance : Sink Memory where
  write m piece :=
    let kind : Refusal := if piece = [0x0A] then .lineEnds else .texts
    if m.refuses [.everything, kind] then (.error (.other "sink full"), m)
    else (.ok (), { m with pieces := piece :: m.pieces })
  flush m :=
    if m.refuses [.everything, .flushes] then (.error (.other "sink full"), m) else (.ok (), m)

end Memory

end EventProbe.Capture
