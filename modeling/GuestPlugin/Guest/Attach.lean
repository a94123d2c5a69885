import GuestPlugin.Config
import GuestPlugin.Guest.EntryHook
import GuestPlugin.Region.ControlBlock

/-! # Handing a loaded region to a guest

The region is made ready before it is mapped, code is unprotected before the mapping is asked for,
and the entry is hooked last, when the plugin stands behind it. A failure leaves the guest's code as
it was and no mapping behind. The region stays with the caller, in the state it was brought to.
-/

set_option autoImplicit false

namespace GuestPlugin.Attach

open Program (ask)

/-- Makes the requests in order, up to the first that is refused. -/
def control (guest : Guest) : List ControlRequest → Program (Except ResultCode Unit)
  | [] => return .ok ()
  | request :: rest => do
    match ← ask (.control guest request) with
    | .error code => return .error code
    | .ok () => control guest rest

/-- Maps a prepared block and hooks the entry; the mapping is undone if there is no hook. -/
def mapAndHook (config : Config) (guest : Guest) (block : Block) :
    Program (Except ResourceError SavedEntry) := do
  match ← control guest [.unprotectCode, .signalOnExit] with
  | .error code => return .error (.mappingFailed code)
  | .ok () =>
    match ← ask (.mapRegion guest block config.heapAddress) with
    | .error code => return .error (.mappingFailed code)
    | .ok () =>
      match ← EntryHook.install guest config.entryAddress config.trampoline with
      | .ok saved => return .ok saved
      | .error code =>
        ask (.unmapRegion guest block config.heapAddress)
        return .error (.entryMappingFailed code)

end Attach

/-- Writes the control block, clears the heap, and attaches the region to a guest. -/
def attach (config : Config) (guest : Guest) (region : Region) (block : ControlBlock) :
    Program (Except ResourceError SavedEntry × Region) := do
  let memory ← Program.ofOption (block.prepare? region.memory)
  let region := region.withMemory memory
  let result ← Attach.mapAndHook config guest region.toBlock
  return (result, region)

end GuestPlugin
