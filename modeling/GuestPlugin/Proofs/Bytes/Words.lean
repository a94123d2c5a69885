import GuestPlugin.Bytes
import GuestPlugin.Proofs.Bytes.LittleEndian

/-! # Bytes taken as words

Words written one behind the other are found again at every fourth byte, and bytes whose number is a
multiple of four are the words that stand in them. Neither way is anything lost.
-/

set_option autoImplicit false

namespace GuestPlugin

namespace LittleEndian

theorem encodeWords_append (words others : List UInt32) :
    encodeWords (words ++ others) = encodeWords words ++ encodeWords others :=
  List.flatMap_append

/-- The words that stand one behind the other at the front of some bytes. -/
def decodeWords (count : Nat) (l : List UInt8) : List UInt32 :=
  (List.range count).map fun i => (value ((l.drop (4 * i)).take 4)).toUInt32

theorem decodeWords_add (count more : Nat) (l : List UInt8) :
    decodeWords (count + more) l = decodeWords count l ++ decodeWords more (l.drop (4 * count)) := by
  simp only [decodeWords, List.range_add, List.map_append, List.map_map, List.drop_drop]
  congr 2
  funext i
  simp only [Function.comp_apply, Nat.mul_add]

theorem encode_toUInt32_value {l : List UInt8} (h : l.length = 4) :
    encode 4 (value l).toUInt32.toNat = l := by
  have hBound : value l < 2 ^ 32 := by
    have hValue := value_lt l
    rwa [h] at hValue
  have hWord : (value l).toUInt32.toNat = value l := UInt32.toNat_ofNat_of_lt' hBound
  rw [hWord, ← h]
  exact encode_value l

theorem encodeWords_decodeWords {count : Nat} {l : List UInt8} (h : 4 * count ≤ l.length) :
    encodeWords (decodeWords count l) = l.take (4 * count) := by
  induction count with
  | zero => rfl
  | succ count ih =>
    have hLast : ((l.drop (4 * count)).take 4).length = 4 := by
      rw [List.length_take, List.length_drop]
      omega
    have hOne : encodeWords (decodeWords 1 (l.drop (4 * count))) = (l.drop (4 * count)).take 4 := by
      simp only [decodeWords, encodeWords, List.range_one, List.map_cons, List.map_nil,
        List.flatMap_cons, List.flatMap_nil, List.append_nil, Nat.mul_zero, List.drop_zero]
      exact encode_toUInt32_value hLast
    rw [decodeWords_add, encodeWords_append, ih (by omega), hOne, Nat.mul_succ, List.take_add]

end LittleEndian

namespace Bytes

variable {n : Nat} {b : Bytes n} {start : Nat}

theorem word_eq_value (h : start + 4 ≤ n) :
    b.word start h = (LittleEndian.value ((b.toList.drop start).take 4)).toUInt32 := by
  rw [word, toList_slice]

theorem encode_word (h : start + 4 ≤ n) :
    LittleEndian.encode 4 (b.word start h).toNat = (b.toList.drop start).take 4 := by
  rw [word_eq_value]
  apply LittleEndian.encode_toUInt32_value
  rw [List.length_take, List.length_drop, length_toList]
  omega

theorem word_eq_iff (h : start + 4 ≤ n) (word : UInt32) :
    b.word start h = word ↔ (b.toList.drop start).take 4 = LittleEndian.encode 4 word.toNat := by
  constructor
  · rintro rfl
    exact (encode_word h).symm
  · intro hBytes
    rw [word_eq_value, hBytes, LittleEndian.toUInt32_value_encode]

theorem word_encodeWords {words : List UInt32} (hBytes : b.toList = LittleEndian.encodeWords words)
    {i : Nat} (hi : i < words.length) (h : 4 * i + 4 ≤ n) : b.word (4 * i) h = words[i] := by
  rw [word_eq_iff, hBytes, LittleEndian.slice_encodeWords hi]

end Bytes
end GuestPlugin
