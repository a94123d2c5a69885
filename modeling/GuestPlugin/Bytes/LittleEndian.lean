/-! # Little-endian numbers

A number of a given width is its base-256 digits, least significant first. Every list of bytes is the
digits of its own value.
-/

set_option autoImplicit false

namespace GuestPlugin.LittleEndian

def value : List UInt8 → Nat
  | [] => 0
  | b :: rest => b.toNat + 256 * value rest

def encode : (width : Nat) → Nat → List UInt8
  | 0, _ => []
  | width + 1, n => n.toUInt8 :: encode width (n / 256)

@[simp] theorem length_encode (width n : Nat) : (encode width n).length = width := by
  induction width generalizing n with
  | zero => rfl
  | succ width ih => simp [encode, ih]

theorem encode_value (l : List UInt8) : encode l.length (value l) = l := by
  induction l with
  | nil => rfl
  | cons b rest ih =>
    have hb : b.toNat < 256 := b.toNat_lt
    have hdiv : (b.toNat + 256 * value rest) / 256 = value rest := by omega
    have hmod : (b.toNat + 256 * value rest).toUInt8 = b := by
      apply UInt8.toNat_inj.mp
      simp only [Nat.toUInt8, UInt8.toNat_ofNat']
      omega
    simp only [List.length_cons, value, encode, hdiv, hmod, ih]

/-- Words one behind the other, four bytes each. -/
def encodeWords (words : List UInt32) : List UInt8 := words.flatMap fun word => encode 4 word.toNat

@[simp] theorem length_encodeWords (words : List UInt32) :
    (encodeWords words).length = 4 * words.length := by
  induction words with
  | nil => rfl
  | cons word rest ih =>
    simp only [encodeWords, List.flatMap_cons, List.length_append, length_encode] at ih ⊢
    rw [ih, List.length_cons]
    omega

end GuestPlugin.LittleEndian
