/-! # Hexadecimal text

Identifiers and result codes are written with a fixed number of upper-case digits, sizes with as few
lower-case digits as they need.
-/

set_option autoImplicit false

namespace GuestPlugin.Hex

def digit (n : Nat) : Char :=
  if n < 10 then Char.ofNat ('0'.toNat + n) else Char.ofNat ('A'.toNat + (n - 10))

/-- The last `width` digits of a number, most significant first. -/
def digits : (width : Nat) → Nat → List Char
  | 0, _ => []
  | width + 1, n => digits width (n / 16) ++ [digit (n % 16)]

@[simp] theorem length_digits (width n : Nat) : (digits width n).length = width := by
  induction width generalizing n with
  | zero => rfl
  | succ width ih => simp [digits, ih]

def padded (width n : Nat) : String := String.ofList (digits width n)

def minimal (n : Nat) : String := String.ofList (Nat.toDigits 16 n)

end GuestPlugin.Hex
