import GuestPlugin.Region
import GuestPlugin.Storage.Directory
import GuestPlugin.Storage.Stream

/-! # What the loader asks of its host

Storage, memory pool and kernel are reached through these calls alone. A call states all that the
host needs to answer it, and its answer has the type that belongs to the call; which answers a host
gives is left open.

An open directory says how many entries are still to come, and a read never yields more than that.
This is what bounds a search through it.
-/

set_option autoImplicit false

namespace GuestPlugin

structure Guest where
  handle : UInt32
deriving DecidableEq

inductive ControlRequest where
  /-- Make every code mapping of the guest readable, writable and executable. -/
  | unprotectCode
  /-- Notify the loader when the guest is about to end. -/
  | signalOnExit
deriving DecidableEq

structure OpenDirectory where
  id : Nat
  remaining : Nat
deriving DecidableEq

/-- Entries read at once from a directory in which at most `remaining` were left. -/
abbrev Batch (remaining : Nat) := { entries : List Entry // entries.length ≤ remaining }

inductive HostCall where
  | openDirectory (path : Path)
  | readDirectory (directory : OpenDirectory) (max : Nat)
  | openFile (path : Path)
  | allocate (size : UInt32)
  | free (block : Block)
  | titleOf (guest : Guest)
  | control (guest : Guest) (request : ControlRequest)
  | mapRegion (guest : Guest) (block : Block) (address : UInt32)
  | unmapRegion (guest : Guest) (block : Block) (address : UInt32)
  | mapGuest (guest : Guest) (address size : UInt32)
  | unmapGuest (address size : UInt32)
  | readWord (address : UInt32)
  | writeWord (address value : UInt32)
  | flush

/-- What a host answers. Calls that cannot fail and report nothing answer `Unit`. -/
abbrev HostCall.Answer : HostCall → Type
  | .openDirectory _ => Except StorageFailure OpenDirectory
  | .readDirectory directory _ => Except StorageFailure (Batch directory.remaining)
  | .openFile _ => Except StorageFailure Stream
  | .allocate _ => Except ResultCode Block
  | .free _ => Unit
  | .titleOf _ => Except ResultCode TitleId
  | .control _ _ => Except ResultCode Unit
  | .mapRegion _ _ _ => Except ResultCode Unit
  | .unmapRegion _ _ _ => Unit
  | .mapGuest _ _ _ => Except ResultCode Unit
  | .unmapGuest _ _ => Unit
  | .readWord _ => UInt32
  | .writeWord _ _ => Unit
  | .flush => Unit

end GuestPlugin
