import GuestPlugin.Region.Tier
import GuestPlugin.Bytes

/-! # The memory region of a plugin

A block is what a pool hands out: a handle for the kernel, and memory of the size it states, which
need not be the size that was asked for. A region is a block together with the tier it was reserved
for.
-/

set_option autoImplicit false

namespace GuestPlugin

/-- Granularity of every mapping. -/
def pageSize : UInt32 := 0x1000

structure Block where
  handle : UInt32
  size : UInt32
  memory : Bytes size.toNat
deriving DecidableEq

structure Region extends Block where
  tier : Tier
deriving DecidableEq

def Region.withMemory (r : Region) (memory : Bytes r.size.toNat) : Region := { r with memory }

end GuestPlugin
