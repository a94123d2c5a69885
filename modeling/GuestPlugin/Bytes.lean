import GuestPlugin.Bytes.LittleEndian

/-! # Byte strings of known length

`Bytes n` is a byte string that has exactly `n` bytes. Reading inside it asks for a proof of the
bound, so a fixed header has no failing field. Writing at a computed place is checked instead: the
answer `none` is an access outside the bytes, kept apart from every failure a caller may report.
-/

set_option autoImplicit false

namespace GuestPlugin

instance (priority := high) decidableEqByteArray : DecidableEq ByteArray :=
  ByteArray.instDecidableEq

structure Bytes (n : Nat) where
  toByteArray : ByteArray
  size_eq : toByteArray.size = n
deriving DecidableEq

namespace Bytes

variable {n : Nat}

@[ext] theorem ext {a b : Bytes n} (h : a.toByteArray = b.toByteArray) : a = b := by
  cases a; cases b; cases h; rfl

@[simp] theorem size_toByteArray (b : Bytes n) : b.toByteArray.size = n := b.size_eq

def toList (b : Bytes n) : List UInt8 := b.toByteArray.data.toList

@[simp] theorem length_toList (b : Bytes n) : b.toList.length = n := b.size_eq

theorem ext_toList {a b : Bytes n} (h : a.toList = b.toList) : a = b :=
  ext (ByteArray.ext (Array.toList_inj.mp h))

def get (b : Bytes n) (i : Nat) (h : i < n) : UInt8 :=
  b.toByteArray.get i (by rw [b.size_eq]; exact h)

theorem getElem?_toList (b : Bytes n) (i : Nat) (h : i < n) : b.toList[i]? = some (b.get i h) :=
  List.getElem?_eq_getElem (by rwa [length_toList])

def slice (b : Bytes n) (start len : Nat) (h : start + len ≤ n) : Bytes len where
  toByteArray := b.toByteArray.extract start (start + len)
  size_eq := by simp only [ByteArray.size_extract, size_toByteArray]; omega

@[simp] theorem toList_slice (b : Bytes n) (start len : Nat) (h : start + len ≤ n) :
    (b.slice start len h).toList = (b.toList.drop start).take len := by
  simp only [toList, slice, ByteArray.data_extract, Array.toList_extract, List.extract_eq_take_drop,
    Nat.add_sub_cancel_left]

def append {m : Nat} (a : Bytes m) (b : Bytes n) : Bytes (m + n) where
  toByteArray := a.toByteArray ++ b.toByteArray
  size_eq := by simp

@[simp] theorem toList_append {m : Nat} (a : Bytes m) (b : Bytes n) :
    (a.append b).toList = a.toList ++ b.toList := by
  simp [toList, append]

def word (b : Bytes n) (start : Nat) (h : start + 4 ≤ n) : UInt32 :=
  (LittleEndian.value (b.slice start 4 h).toList).toUInt32

def pushCopies (byte : UInt8) : Nat → ByteArray → ByteArray
  | 0, acc => acc
  | count + 1, acc => pushCopies byte count (acc.push byte)

theorem toList_pushCopies (byte : UInt8) (count : Nat) (acc : ByteArray) :
    (pushCopies byte count acc).data.toList = acc.data.toList ++ List.replicate count byte := by
  induction count generalizing acc with
  | zero => simp [pushCopies]
  | succ count ih =>
    rw [pushCopies, ih, ByteArray.data_push]
    simp [List.replicate_succ]

theorem toList_pushCopies_empty (byte : UInt8) (count capacity : Nat) :
    (pushCopies byte count (ByteArray.emptyWithCapacity capacity)).data.toList =
      List.replicate count byte := by
  rw [toList_pushCopies]; rfl

def replicate (count : Nat) (byte : UInt8) : Bytes count where
  toByteArray := pushCopies byte count (ByteArray.emptyWithCapacity count)
  size_eq := by
    have h := congrArg List.length (toList_pushCopies_empty byte count count)
    rwa [List.length_replicate] at h

@[simp] theorem toList_replicate (count : Nat) (byte : UInt8) :
    (replicate count byte).toList = List.replicate count byte :=
  toList_pushCopies_empty byte count count

/-- Replaces the bytes from `start` on by those of `source`, when all of them fit. -/
def write? (b : Bytes n) (start : Nat) (source : ByteArray) : Option (Bytes n) :=
  if h : start + source.size ≤ n then
    some {
      toByteArray := b.toByteArray.extract 0 start ++ source ++
        b.toByteArray.extract (start + source.size) n
      size_eq := by
        simp only [ByteArray.size_append, ByteArray.size_extract, size_toByteArray]; omega }
  else none

theorem write?_isSome_iff (b : Bytes n) (start : Nat) (source : ByteArray) :
    (b.write? start source).isSome ↔ start + source.size ≤ n := by
  unfold write?
  split <;> simp_all

theorem toList_write? {b b' : Bytes n} {start : Nat} {source : ByteArray}
    (h : b.write? start source = some b') :
    b'.toList = b.toList.take start ++ source.data.toList ++
      b.toList.drop (start + source.size) := by
  unfold write? at h
  split at h
  · cases h
    have hb : b.toByteArray.data.toList.length = n := b.size_eq
    simp only [toList, ByteArray.data_append, ByteArray.data_extract, Array.toList_append,
      Array.toList_extract, List.extract_eq_take_drop, Nat.sub_zero, List.drop_zero]
    congr 1
    exact List.take_of_length_le (by rw [List.length_drop]; omega)
  · cases h

/-- Replaces everything from `start` to the end by `source`, which must have that very length. -/
def writeTail? (b : Bytes n) (start : Nat) (source : ByteArray) : Option (Bytes n) :=
  if start + source.size = n then b.write? start source else none

def clear? (b : Bytes n) (start stop : Nat) : Option (Bytes n) :=
  if start ≤ stop then b.write? start (replicate (stop - start) 0).toByteArray else none

end Bytes
end GuestPlugin
