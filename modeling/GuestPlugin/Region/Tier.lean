import GuestPlugin.Failure

/-! # Region sizes

A container asks for one of four sizes; what each amounts to is configured.
-/

set_option autoImplicit false

namespace GuestPlugin

inductive Tier where
  | default
  | small
  | large
  | reserved
deriving DecidableEq

namespace Tier

def name : Tier → String
  | .default => "Default"
  | .small => "Small"
  | .large => "Large"
  | .reserved => "Reserved"

/-- The place of a tier in a table of sizes, which is also how a header names it. -/
def index : Tier → Fin 4
  | .default => 0
  | .small => 1
  | .large => 2
  | .reserved => 3

def ofByte (byte : UInt8) : Except FormatError Tier :=
  if byte = 0 then .ok .default
  else if byte = 1 then .ok .small
  else if byte = 2 then .ok .large
  else if byte = 3 then .ok .reserved
  else .error (.invalidField "memory region size")

theorem ofByte_index (t : Tier) : ofByte t.index.val.toUInt8 = .ok t := by
  cases t <;> rfl

end Tier
end GuestPlugin
