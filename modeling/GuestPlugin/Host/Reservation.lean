import GuestPlugin.Host.Program

/-! # The one region held

A loader holds at most one region. Reserving gives the held one back before the pool is asked for
another, so a refused request leaves none. The size is taken as given, and what the pool grants
decides how large the region is.
-/

set_option autoImplicit false

namespace GuestPlugin.Reservation

open Program (ask report)

/-- Gives back what is held, if anything, and tells whether there was something. -/
def release : Option Region → Program Bool
  | none => return false
  | some region => do
    ask (.free region.toBlock)
    return true

def reserve (held : Option Region) (tier : Tier) (size : UInt32) :
    Program (Except ResourceError Region) := do
  let _ ← release held
  match ← ask (.allocate size) with
  | .ok block => return .ok { block with tier }
  | .error code =>
    report (.allocationRefused size code)
    return .error (.allocationRefused size)

end GuestPlugin.Reservation
