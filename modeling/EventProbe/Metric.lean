import EventProbe.Number.Ieee
import EventProbe.Text.Numeral

/-!
# Metrics

Numbers that plugins report about themselves, in any of the usual number types, and their common
form as unsigned 64-bit numbers.
-/

namespace EventProbe

inductive MetricType where
  | monotonic
  | nonMonotonic
  deriving DecidableEq, Repr

def MetricType.name : MetricType → String
  | .monotonic => "Monotonic"
  | .nonMonotonic => "NonMonotonic"

/-- The value of a metric. Floating-point numbers are kept as their bits. -/
inductive MetricValue where
  | u32 (n : Nat)
  | s32 (n : Int)
  | u64 (n : Nat)
  | i64 (n : Int)
  | double (bits : Nat)
  | float (bits : Nat)
  | int (n : Int)
  deriving DecidableEq, Repr

/-- The value as an unsigned number: integers in two's complement, floating-point numbers cut off to
the range. -/
def MetricValue.asWord : MetricValue → Nat
  | .u32 n => n
  | .u64 n => n
  | .s32 n => (n % wordLimit).toNat
  | .i64 n => (n % wordLimit).toNat
  | .int n => (n % wordLimit).toNat
  | .double bits => Ieee.double.truncate wordLimit bits
  | .float bits => Ieee.single.truncate wordLimit bits

structure Metric where
  name : String
  type : MetricType
  value : MetricValue
  deriving DecidableEq, Repr

def Metric.counter (name : String) (value : Nat) : Metric :=
  ⟨name, .monotonic, .u64 value⟩

def Metric.gauge (name : String) (value : MetricValue) : Metric :=
  ⟨name, .nonMonotonic, value⟩

/-- Which groups of metrics are collected. -/
structure MetricFlags where
  /-- Those that plugins report. -/
  plugins : Bool
  /-- The counters of the engine. -/
  engine : Bool
  deriving DecidableEq, Repr

/-- The metrics of plugins only. -/
def MetricFlags.default : MetricFlags := ⟨true, false⟩

end EventProbe
