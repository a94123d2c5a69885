import GuestPlugin.Loader

/-! # Runs of a loader

The operations a loader offers its host, as data, so that what may happen to a loader over time is
the performance of a list of them.
-/

set_option autoImplicit false

namespace GuestPlugin.Loader

inductive Operation where
  | tryLoad (guest : Guest) (homebrew : Bool)
  /-- A load of which only the success matters. -/
  | load (guest : Guest) (homebrew : Bool)
  | setForced (forced : Option ForcedLoad)
  | restoreEntry (guest : Guest)
  | guestExit

inductive Outcome where
  | loaded (result : Except LoadError Unit)
  | attached (success : Bool)
  | restored (result : Except ResourceError Unit)
  | finished

def perform : Operation → LoaderM Outcome
  | .tryLoad guest homebrew => return .loaded (← tryLoad guest homebrew)
  | .load guest homebrew => return .attached (← tryLoad guest homebrew).toBool
  | .setForced forced => do
    setForced forced
    return .finished
  | .restoreEntry guest => return .restored (← restoreEntry guest)
  | .guestExit => do
    guestExit
    return .finished

end GuestPlugin.Loader
