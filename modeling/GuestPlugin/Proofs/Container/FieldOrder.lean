import GuestPlugin.Container.Header

/-! # The header read field by field

Here the fields are taken one behind the other, with nothing to say where a field begins but the end of
the one before it. Whether each still ends inside the header is then a question, and it is answered once
for all headers: reading in this order finds what stands at the fixed offsets and ends with the last byte.
-/

set_option autoImplicit false

namespace GuestPlugin

namespace Bytes

variable {n : Nat} {b : Bytes n} {start len i : Nat}

theorem get_slice (h : start + len ≤ n) (hi : i < len) :
    (b.slice start len h).get i hi = b.get (start + i) (by omega) := by
  apply Option.some.inj
  rw [← getElem?_toList, ← getElem?_toList, toList_slice, List.getElem?_take_of_lt hi,
    List.getElem?_drop]

theorem word_slice (h : start + len ≤ n) (hi : i + 4 ≤ len) :
    (b.slice start len h).word i hi = b.word (start + i) (by omega) := by
  have hList : ((b.slice start len h).slice i 4 hi).toList =
      (b.slice (start + i) 4 (by omega)).toList := by
    simp only [toList_slice, List.drop_take, List.take_take, List.drop_drop]
    congr 1
    omega
  rw [word, word, hList]

end Bytes

/-- Reads fields from a place on. The answer `none` is an access outside the bytes. -/
abbrev FieldReader (n : Nat) := ExceptT FormatError (ReaderT (Bytes n) (StateT Nat Option))

namespace FieldReader

variable {n : Nat}

def take (len : Nat) : FieldReader n (Bytes len) := fun b position =>
  if h : position + len ≤ n then some (.ok (b.slice position len h), position + len) else none

/-- Passes over bytes without looking at them. -/
def skip (len : Nat) : FieldReader n Unit := fun _ position => some (.ok (), position + len)

def byte : FieldReader n UInt8 := do
  let field ← take 1
  return field.get 0 (by decide)

def flag : FieldReader n Bool := do
  let field ← byte
  return field != 0

def word : FieldReader n UInt32 := do
  let field ← take 4
  return field.word 0 (by decide)

def text : FieldReader n String := do
  let field ← take 32
  return Header.text field.toList

/-- The fields behind the lead, in the order in which they stand. -/
def header : FieldReader n Header := do
  let compatibility ← Compatibility.ofByte (← byte)
  let allowsHomebrew ← flag
  let tier ← Tier.ofByte (← byte)
  let managesEvents ← flag
  let privateMemory ← flag
  let swapNotNeeded ← flag
  skip 2
  let title ← text
  let author ← text
  let checksum ← word
  let targetCount ← word
  let targetOffset ← word
  let codeOffset ← word
  let rodataOffset ← word
  let dataOffset ← word
  let codeSize ← word
  let rodataSize ← word
  let dataSize ← word
  let bssSize ← word
  let saveOffset ← word
  let saveSize ← word
  let loadOffset ← word
  let loadSize ← word
  return {
    manifest := ⟨compatibility, allowsHomebrew, tier, managesEvents, privateMemory, swapNotNeeded,
      title, author, checksum⟩
    targetCount
    targetOffset
    executable := ⟨⟨codeOffset, codeSize⟩, ⟨rodataOffset, rodataSize⟩, ⟨dataOffset, dataSize⟩, bssSize⟩
    save := ⟨saveOffset, saveSize⟩
    load := ⟨loadOffset, loadSize⟩ }

section Steps

variable {α β : Type} {f : α → FieldReader n β} {b : Bytes n} {position : Nat}

theorem lift_ok_bind (a : α) :
    ((liftM (.ok a : Except FormatError α) : FieldReader n α) >>= f) b position = f a b position := rfl

theorem lift_error_bind (cause : FormatError) :
    ((liftM (.error cause : Except FormatError α) : FieldReader n α) >>= f) b position =
      some (.error cause, position) := rfl

theorem skip_bind {len : Nat} {f : Unit → FieldReader n β} :
    (skip len >>= f) b position = f () b (position + len) := rfl

theorem take_bind {len : Nat} {f : Bytes len → FieldReader n β} (h : position + len ≤ n) :
    (take len >>= f) b position = f (b.slice position len h) b (position + len) := by
  have hTake : take len b position = some (.ok (b.slice position len h), position + len) := dif_pos h
  change (take len b position).bind _ = _
  rw [hTake]
  rfl

theorem byte_bind {f : UInt8 → FieldReader n β} (h : position + 1 ≤ n) :
    (byte >>= f) b position = f (b.get position h) b (position + 1) := by
  rw [byte, bind_assoc, take_bind h, pure_bind, Bytes.get_slice]
  rfl

theorem flag_bind {f : Bool → FieldReader n β} (h : position + 1 ≤ n) :
    (flag >>= f) b position = f (b.get position h != 0) b (position + 1) := by
  rw [flag, bind_assoc, byte_bind h, pure_bind]

theorem word_bind {f : UInt32 → FieldReader n β} (h : position + 4 ≤ n) :
    (word >>= f) b position = f (b.word position h) b (position + 4) := by
  rw [word, bind_assoc, take_bind h, pure_bind, Bytes.word_slice]
  rfl

theorem text_bind {f : String → FieldReader n β} (h : position + 32 ≤ n) :
    (text >>= f) b position = f (Header.text (b.slice position 32 h).toList) b (position + 32) := by
  rw [text, bind_assoc, take_bind h, pure_bind]

end Steps

/-- No field of any header ends outside it. What is read is what stands at the fixed offsets, and a header
that is not turned away is read to its last byte. -/
theorem header_eq_decode (b : Bytes Header.size) :
    ∃ stop, header b Header.leadSize = some (Header.decode b, stop) ∧ stop ≤ Header.size ∧
      ∀ decoded, Header.decode b = .ok decoded → stop = Header.size := by
  rw [header, byte_bind (by decide)]
  cases hCompatibility : Compatibility.ofByte (b.get 0x08 (by decide)) with
  | error cause =>
    have hDecode : Header.decode b = .error cause := by
      rw [Header.decode, hCompatibility]
      rfl
    rw [lift_error_bind, hDecode]
    refine ⟨Header.leadSize + 1, rfl, by decide, ?_⟩
    intro decoded h
    cases h
  | ok compatibility =>
    rw [lift_ok_bind, flag_bind (by decide), byte_bind (by decide)]
    cases hTier : Tier.ofByte (b.get 0x0A (by decide)) with
    | error cause =>
      have hDecode : Header.decode b = .error cause := by
        rw [Header.decode, hCompatibility, hTier]
        rfl
      rw [lift_error_bind, hDecode]
      refine ⟨Header.leadSize + 1 + 1 + 1, rfl, by decide, ?_⟩
      intro decoded h
      cases h
    | ok tier =>
      -- Behind the tier no field can be turned away, so what is left is where each of them ends.
      rw [lift_ok_bind, flag_bind (by decide), flag_bind (by decide), flag_bind (by decide), skip_bind,
        text_bind (by decide), text_bind (by decide)]
      simp (disch := decide) only [word_bind]
      refine ⟨Header.size, ?_, Nat.le_refl _, fun _ _ => rfl⟩
      rw [Header.decode, hCompatibility, hTier]
      simp only [Header.leadSize, Nat.reduceAdd]
      rfl

end FieldReader
end GuestPlugin
