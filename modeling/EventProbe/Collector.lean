import EventProbe.Engine

/-!
# Collecting metrics

A collector takes snapshots of the counters of an engine and of the metrics of its plugins, each
group only if it is asked for.
-/

namespace EventProbe

/-- Named values, each name once. -/
abbrev Snapshot := List (String × MetricValue)

/-- Sets the value of a name. A name that is there keeps its place. -/
def Snapshot.set : Snapshot → String → MetricValue → Snapshot
  | [], name, value => [(name, value)]
  | (key, old) :: rest, name, value =>
    if key = name then (key, value) :: rest else (key, old) :: Snapshot.set rest name value

/-- A collector with the last snapshot. -/
structure Collector where
  flags : MetricFlags
  snapshot : Snapshot
  deriving DecidableEq, Repr

namespace Collector

def fresh (flags : MetricFlags) : Collector := ⟨flags, []⟩

def counterValues (c : Counters) : Snapshot :=
  [("engine.n_evts", .u64 c.events), ("engine.n_timeouts", .u64 c.timeouts),
    ("engine.n_drops", .u64 c.drops)]

/-- Adds the metrics of plugins to a snapshot, up to the first that panics. -/
def addPlugins [Plugin π ι] (h : Host π) :
    List Handle → Snapshot → Except Panic Unit × Snapshot × Host π
  | [], snapshot => (.ok (), snapshot, h)
  | p :: rest, snapshot =>
    match h.metrics p with
    | (.error panic, h) => (.error panic, snapshot, h)
    | (.ok metrics, h) =>
      addPlugins h rest
        (metrics.foldl (fun s m => s.set (p.name ++ "." ++ m.name) m.value) snapshot)

def collect [Plugin π ι] (c : Collector) (g : Engine ι) (h : Host π) :
    Except Panic Unit × Collector × Host π :=
  let counters := if c.flags.engine then counterValues g.counters else []
  if c.flags.plugins then
    let (result, snapshot, h) := addPlugins h g.registry.plugins counters
    (result, { c with snapshot }, h)
  else (.ok (), { c with snapshot := counters }, h)

def words (c : Collector) : List (String × Nat) :=
  c.snapshot.map fun (name, value) => (name, value.asWord)

end Collector

end EventProbe
