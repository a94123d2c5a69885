import GuestPlugin.Config
import GuestPlugin.Container
import GuestPlugin.Event
import GuestPlugin.Guest.EntryHook
import GuestPlugin.Region.ControlBlock

/-! # What a loader remembers between launches

All of it is forgotten when a load begins, except a forced load that the operator has asked for. That
one is used up by the first load it applies to, unless it is marked persistent.
-/

set_option autoImplicit false

namespace GuestPlugin

/-- An operator's override of lookup, strategy and configuration. -/
structure ForcedLoad where
  /-- The title it is meant for; without one it is meant for all. -/
  title? : Option TitleId
  path : Path
  persistent : Bool
  strategy : MemoryStrategy
  words : ConfigWords
deriving DecidableEq

def ForcedLoad.appliesTo (f : ForcedLoad) (title : TitleId) : Bool := f.title?.all (· == title)

structure Context where
  state : LoadState
  pluginPath : Option Path
  lastError : Option LoadError
  strategy : MemoryStrategy
  managesEvents : Bool
  privateMemory : Bool
  isDefault : Bool
  checksum : UInt32
  payloads : Payloads
  forced : Option ForcedLoad
  savedEntry : Option SavedEntry
deriving DecidableEq

namespace Context

def fresh (strategy : MemoryStrategy) (forced : Option ForcedLoad) : Context where
  state := .idle
  pluginPath := none
  lastError := none
  strategy
  managesEvents := false
  privateMemory := false
  isDefault := false
  checksum := 0
  payloads := .none
  forced
  savedEntry := none

def errorMessage? (c : Context) : Option String := c.lastError.bind LoadError.userMessage?

/-- The forced load for a title, and what remains stored. -/
def takeForced (title : TitleId) : Option ForcedLoad → Option ForcedLoad × Option ForcedLoad
  | none => (none, none)
  | some forced =>
    if forced.appliesTo title then (some forced, if forced.persistent then some forced else none)
    else (none, some forced)

/-- The strategy in use, given whether the plugin can do without swapping. -/
def settle (swapNotNeeded : Bool) : MemoryStrategy → MemoryStrategy
  | .swap => if swapNotNeeded then .none else .swap
  | strategy => strategy

def admitted (c : Context) (container : Container) : Context :=
  { c with
    strategy := settle container.manifest.swapNotNeeded c.strategy
    managesEvents := container.manifest.managesEvents
    privateMemory := container.manifest.privateMemory
    checksum := container.manifest.checksum
    payloads := container.payloads }

end Context
end GuestPlugin
