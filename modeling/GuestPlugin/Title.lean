import GuestPlugin.Text.Hex

/-! # Title identifiers

A guest application is named by a 64-bit number. Written out it has sixteen upper-case digits, which
is also the name of the directory that holds its plugins.
-/

set_option autoImplicit false

namespace GuestPlugin

structure TitleId where
  value : UInt64
deriving DecidableEq

namespace TitleId

instance : LE TitleId := ⟨fun a b => a.value ≤ b.value⟩
instance : LT TitleId := ⟨fun a b => a.value < b.value⟩

instance (a b : TitleId) : Decidable (a ≤ b) := inferInstanceAs (Decidable (a.value ≤ b.value))
instance (a b : TitleId) : Decidable (a < b) := inferInstanceAs (Decidable (a.value < b.value))

def digits (t : TitleId) : List Char := Hex.digits 16 t.value.toNat

def render (t : TitleId) : String := String.ofList t.digits

def sort (titles : List TitleId) : List TitleId := titles.mergeSort fun a b => decide (a ≤ b)

end TitleId
end GuestPlugin
