import Mathlib.Algebra.Group.Nat.Defs
import GuestPlugin.Bytes.LittleEndian

/-! # The range of a little-endian number

As many bytes as there are digits bound the value, and what a number too wide for its digits loses is
stated as a remainder.
-/

set_option autoImplicit false

namespace GuestPlugin.LittleEndian

theorem value_encode (width n : Nat) : value (encode width n) = n % 256 ^ width := by
  induction width generalizing n with
  | zero => simp [encode, value, Nat.mod_one]
  | succ width ih =>
    rw [encode, value, ih, Nat.pow_succ', Nat.mod_mul]
    simp [Nat.toUInt8, UInt8.toNat_ofNat']

theorem value_lt (l : List UInt8) : value l < 256 ^ l.length := by
  induction l with
  | nil => simp [value]
  | cons b rest ih =>
    have hb := b.toNat_lt
    simp only [value, List.length_cons, Nat.pow_succ']
    omega

theorem toUInt32_value_encode (word : UInt32) : (value (encode 4 word.toNat)).toUInt32 = word := by
  have hBound : word.toNat < 256 ^ 4 := word.toNat_lt
  rw [value_encode, Nat.mod_eq_of_lt hBound]
  exact UInt32.ofNat_toNat

theorem toUInt64_value_encode (word : UInt64) : (value (encode 8 word.toNat)).toUInt64 = word := by
  have hBound : word.toNat < 256 ^ 8 := word.toNat_lt
  rw [value_encode, Nat.mod_eq_of_lt hBound]
  exact UInt64.ofNat_toNat

theorem slice_encodeWords {words : List UInt32} {i : Nat} (h : i < words.length) :
    ((encodeWords words).drop (4 * i)).take 4 = encode 4 words[i].toNat := by
  induction words generalizing i with
  | nil => simp at h
  | cons word rest ih =>
    have hCons : encodeWords (word :: rest) = encode 4 word.toNat ++ encodeWords rest := rfl
    have hWidth : (encode 4 word.toNat).length = 4 := length_encode 4 word.toNat
    rw [hCons]
    cases i with
    | zero => rw [Nat.mul_zero, List.drop_zero, List.take_left' hWidth, List.getElem_cons_zero]
    | succ i =>
      have hNext : 4 * (i + 1) = 4 + 4 * i := by omega
      rw [hNext, ← List.drop_drop, List.drop_left' hWidth, List.getElem_cons_succ]
      exact ih (Nat.lt_of_succ_lt_succ h)

end GuestPlugin.LittleEndian
