import EventProbe.Plugin.Api

/-!
# The host

The process-wide state: the plugins that were ever registered, each in its own slot, and a journal
of every call into a plugin. A slot is never given up or used again, so that a reference to a plugin
stays good for ever and two references are to the same plugin exactly if their slots are equal.
-/

namespace EventProbe

inductive Action where
  | init (config : String)
  | openSource (params : String)
  | nextBatch
  | close
  | render (event : Event)
  | extract (request : Request)
  | parse (event : Event)
  | metrics
  deriving DecidableEq, Repr

/-- A call into a plugin. A plugin that is being made is entered under the slot it would get. -/
structure Call where
  slot : Nat
  plugin : String
  action : Action
  deriving DecidableEq, Repr

def Call.text (c : Call) : String :=
  c.plugin ++ "." ++ match c.action with
    | .init config => "init(" ++ config ++ ")"
    | .openSource params => "open(" ++ params ++ ")"
    | .nextBatch => "next_batch"
    | .close => "close"
    | .render event => s!"to_string({event.num})"
    | .extract request => "extract(" ++ request.field.name ++ s!",{request.offsets})"
    | .parse event => s!"parse({event.num})"
    | .metrics => "metrics"

structure Slot (π : Type) where
  manifest : Manifest
  state : π

/-- The state of the process. -/
structure Host (π : Type) where
  /-- All plugins in the order of their registration. -/
  slots : List (Slot π)
  /-- All calls into plugins, in order. -/
  journal : Array Call
  environment : Environment
  /-- The present time, in nanoseconds since 1 January 1970. -/
  now : Nat
  /-- Number of drivers made so far. -/
  drivers : Nat

namespace Host

def fresh (environment : Environment) : Host π :=
  ⟨[], #[], environment, 0, 0⟩

def record (h : Host π) (slot : Nat) (plugin : String) (action : Action) : Host π :=
  { h with journal := h.journal.push ⟨slot, plugin, action⟩ }

/-- Calls the plugin in a slot. The call is in the journal before it is made. There is always a
plugin behind a reference; `absent` is what a call of none gives. -/
def call (h : Host π) (slot : Nat) (action : Action) (absent : α) (run : π → α × π) : α × Host π :=
  match h.slots[slot]? with
  | none => (absent, h)
  | some s =>
    let (result, state) := run s.state
    let h := h.record slot s.manifest.name action
    (result, { h with slots := h.slots.set slot { s with state } })

variable [Plugin π ι]

def openSource (h : Host π) (p : Handle) (params : String) : Outcome String ι × Host π :=
  h.call p.slot (.openSource params) (.failed "plugin does not generate events")
    fun s => Plugin.openSource s params

def nextBatch (h : Host π) (p : Handle) (source : ι) : Except Panic Batch × ι × Host π :=
  let ((batch, source), h) := h.call p.slot .nextBatch (.ok .endOfStream, source) fun s =>
    let (batch, s, source) := Plugin.nextBatch s source
    ((batch, source), s)
  (batch, source, h)

def close (h : Host π) (p : Handle) (source : ι) : Host π :=
  (h.call p.slot .close () fun s => ((), Plugin.close s source)).2

def render (h : Host π) (p : Handle) (event : Event) : Outcome String String × Host π :=
  h.call p.slot (.render event) (.ok event.text) fun s => Plugin.render s event

def extract (h : Host π) (p : Handle) (request : Request) :
    Outcome String (List Extracted) × Host π :=
  h.call p.slot (.extract request) (.ok []) fun s => Plugin.extract s request

def parse (h : Host π) (p : Handle) (event : Event) : Outcome String Unit × Host π :=
  h.call p.slot (.parse event) (.ok ()) fun s => Plugin.parse s event

def metrics (h : Host π) (p : Handle) : Except Panic (List Metric) × Host π :=
  h.call p.slot .metrics (.ok []) fun s => Plugin.metrics s

end Host

end EventProbe
