import EventProbe.Host

/-!
# The plugin registry

The plugins that one engine knows, under pairwise distinct names.
-/

namespace EventProbe

inductive RegisterFault where
  /-- It declares no capability. -/
  | noCapabilities (name : String)
  /-- The name is taken. -/
  | duplicate (name : String)
  /-- It did not accept its configuration. -/
  | refused (name message : String)
  deriving DecidableEq, Repr

def RegisterFault.message : RegisterFault → String
  | .noCapabilities name => s!"plugin {name} declares no capabilities"
  | .duplicate name => s!"plugin already registered: {name}"
  | .refused name message => s!"plugin {name} failed to initialize: {message}"

/-- The registered plugins in the order of their registration. -/
structure Registry where
  plugins : List Handle
  deriving DecidableEq, Repr

namespace Registry

def empty : Registry := ⟨[]⟩

def find? (r : Registry) (name : String) : Option Handle :=
  r.plugins.find? (·.name == name)

def names (r : Registry) : List String :=
  r.plugins.map Handle.name

/-- Forgets all plugins. References to them stay good. -/
def clear (_ : Registry) : Registry := empty

/-- Makes a plugin and registers it. The plugin is not made if it has no capability or its name is
taken, and nothing changes when it is not registered. -/
def register (r : Registry) (h : Host π) (d : Descriptor π) (config : String) :
    Outcome RegisterFault Handle × Registry × Host π :=
  if d.manifest.capabilities.isEmpty then (.failed (.noCapabilities d.manifest.name), r, h)
  else if (r.find? d.manifest.name).isSome then (.failed (.duplicate d.manifest.name), r, h)
  else
    let slot := h.slots.length
    let h := h.record slot d.manifest.name (.init config)
    match d.init config with
    | .failed message => (.failed (.refused d.manifest.name message), r, h)
    | .panicked p => (.panicked p, r, h)
    | .ok state =>
      let handle : Handle := ⟨slot, d.manifest⟩
      (.ok handle, ⟨r.plugins ++ [handle]⟩,
        { h with slots := h.slots ++ [⟨d.manifest, state⟩] })

end Registry

end EventProbe
