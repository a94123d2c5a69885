import GuestPlugin.Failure

/-! # Events

What the loader reports while it works. An event carries the values themselves; the fields in which
they are written out come after its fixed text and in a fixed order.
-/

set_option autoImplicit false

namespace GuestPlugin

/-- The stages of a load in the order they run, and the states between loads. -/
inductive LoadState where
  | idle
  | resolving
  | parsing
  | checking
  | allocating
  | staging
  | attaching
  | attached
  | failed
deriving DecidableEq

def LoadState.name : LoadState → String
  | .idle => "Idle"
  | .resolving => "Resolving"
  | .parsing => "Parsing"
  | .checking => "CheckingCompatibility"
  | .allocating => "Allocating"
  | .staging => "LoadingSegments"
  | .attaching => "Injecting"
  | .attached => "Attached"
  | .failed => "Failed"

inductive Level where
  | trace
  | debug
  | info
  | warn
deriving DecidableEq

inductive Event where
  | stateChanged (old new : LoadState)
  | allocationRefused (size : UInt32) (code : ResultCode)
  | scanningDirectory (directory : Path) (entries : Nat)
  | titlePluginUnavailable (path : Path) (failure : StorageFailure)
  | titleNotTargeted (title : TitleId) (targets : List TitleId)
  | partsLoaded (imageSize heapSize bssSize : UInt32)
  | pluginAttached (title : TitleId) (path : Path) (plugin : String) (imageSize heapSize : UInt32)
  | loadFailed (message : String) (released : Bool)
  | loadSkipped (cause : LoadError)
  | releasedOnExit
deriving DecidableEq

namespace Event

def level : Event → Level
  | .stateChanged .. => .debug
  | .allocationRefused .. => .debug
  | .scanningDirectory .. => .trace
  | .titlePluginUnavailable .. => .debug
  | .titleNotTargeted .. => .debug
  | .partsLoaded .. => .trace
  | .pluginAttached .. => .info
  | .loadFailed .. => .warn
  | .loadSkipped .. => .debug
  | .releasedOnExit => .debug

def text : Event → String
  | .stateChanged .. => "plugin load state"
  | .allocationRefused .. => "memory pool refused region"
  | .scanningDirectory .. => "scanning plugin directory"
  | .titlePluginUnavailable .. => "cannot open title plugin"
  | .titleNotTargeted .. => "guest not in plugin target list"
  | .partsLoaded .. => "segments loaded"
  | .pluginAttached .. => "plugin attached"
  | .loadFailed .. => "plugin load failed"
  | .loadSkipped .. => "plugin load skipped"
  | .releasedOnExit => "plugin region released on guest exit"

def values : Event → List (String × String)
  | .stateChanged old new => [("from", old.name), ("to", new.name)]
  | .allocationRefused size code => [("size", toString size.toNat), ("error", code.message)]
  | .scanningDirectory directory entries =>
    [("dir", directory.text), ("entries", toString entries)]
  | .titlePluginUnavailable path failure => [("path", path.text), ("error", failure.message)]
  | .titleNotTargeted title targets =>
    [("title", title.render), ("targets", ", ".intercalate (targets.map TitleId.render))]
  | .partsLoaded imageSize heapSize bssSize =>
    [("image_size", toString imageSize.toNat), ("heap_size", toString heapSize.toNat),
      ("bss_size", toString bssSize.toNat)]
  | .pluginAttached title path plugin imageSize heapSize =>
    [("title", title.render), ("path", path.text), ("plugin", plugin),
      ("image_size", toString imageSize.toNat), ("heap_size", toString heapSize.toNat)]
  | .loadFailed message released =>
    [("message", message), ("released", if released then "true" else "false")]
  | .loadSkipped cause => [("error", cause.message)]
  | .releasedOnExit => []

/-- The fields of an event as they are written out, its fixed text first. -/
def fields (e : Event) : List (String × String) := ("message", e.text) :: e.values

end Event
end GuestPlugin
