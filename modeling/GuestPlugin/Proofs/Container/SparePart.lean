import GuestPlugin.Proofs.Region.StagedBytes

/-! # Offsets of empty parts

Constants and data of an executable may be empty, and the header then still has an offset for them. Two
files that differ in such an offset only declare the same executable but for it, and if one of them is a
container so is the other.
-/

set_option autoImplicit false

namespace GuestPlugin

/-- The parts that an executable can do without. -/
inductive SparePart where
  | rodata
  | data

namespace SparePart

def range : SparePart → Executable → FileRange
  | rodata, e => e.rodata
  | data, e => e.data

/-- Where a header holds the offset of the part. -/
def field : SparePart → Nat
  | rodata => 0x60
  | data => 0x64

def moveTo : SparePart → Executable → UInt32 → Executable
  | rodata, e, offset => { e with rodata := ⟨offset, e.rodata.size⟩ }
  | data, e, offset => { e with data := ⟨offset, e.data.size⟩ }

/-- Two files that differ at most in the four bytes that say where an empty part lies. No part that is
there reaches into these bytes. -/
structure Moves (part : SparePart) (file file' : ByteArray) : Prop where
  size : file'.size = file.size
  same : ∀ i, ¬ (part.field ≤ i ∧ i < part.field + 4) →
    file'.data.toList[i]? = file.data.toList[i]?
  empty : (part.range (.declaredIn file)).size = 0
  apart : ∀ range ∈ (Executable.declaredIn file).parts, range.size ≠ 0 →
    range.offset.toNat + range.size.toNat ≤ part.field ∨ part.field + 4 ≤ range.offset.toNat

variable {part : SparePart} {file file' : ByteArray}

theorem Moves.sliceOf_eq (h : part.Moves file file') {offset size : Nat}
    (hApart : offset + size ≤ part.field ∨ part.field + 4 ≤ offset) :
    Stream.sliceOf file' offset size = Stream.sliceOf file offset size := by
  apply List.ext_getElem?
  intro i
  rw [Stream.sliceOf, Stream.sliceOf, List.getElem?_take, List.getElem?_take]
  split
  · rw [List.getElem?_drop, List.getElem?_drop]
    exact h.same _ (by omega)
  · rfl

theorem Moves.word_eq (h : part.Moves file file') (offset : Nat)
    (hApart : offset + 4 ≤ part.field ∨ part.field + 4 ≤ offset) :
    Container.numberAt file' offset 4 = Container.numberAt file offset 4 := by
  rw [Container.numberAt, Container.numberAt, h.sliceOf_eq hApart]

theorem field_bounds (part : SparePart) : 0x60 ≤ part.field ∧ part.field + 4 ≤ 0x68 := by
  cases part <;> decide

theorem Moves.numberAt_eq (h : part.Moves file file') (offset width : Nat)
    (hOutside : offset + width ≤ 0x60 ∨ 0x68 ≤ offset) :
    Container.numberAt file' offset width = Container.numberAt file offset width := by
  have hField := part.field_bounds
  rw [Container.numberAt, Container.numberAt, h.sliceOf_eq (by omega)]

theorem Moves.declaredIn_eq (h : part.Moves file file') :
    Executable.declaredIn file' =
      part.moveTo (.declaredIn file) (part.range (.declaredIn file')).offset := by
  cases part with
  | rodata =>
    simp only [Executable.declaredIn, moveTo, range]
    rw [h.word_eq 0x5C (by decide), h.word_eq 0x68 (by decide), h.word_eq 0x6C (by decide),
      h.word_eq 0x64 (by decide), h.word_eq 0x70 (by decide), h.word_eq 0x74 (by decide)]
  | data =>
    simp only [Executable.declaredIn, moveTo, range]
    rw [h.word_eq 0x5C (by decide), h.word_eq 0x68 (by decide), h.word_eq 0x60 (by decide),
      h.word_eq 0x6C (by decide), h.word_eq 0x70 (by decide), h.word_eq 0x74 (by decide)]

theorem Moves.acceptable (h : part.Moves file file') (hFile : Container.Acceptable file) :
    Container.Acceptable file' := by
  have hField := part.field_bounds
  have hInside (offset count : Nat) (hRange : Container.Inside file offset count) :
      Container.Inside file' offset count := by
    rwa [Container.Inside, h.size]
  constructor
  case magic =>
    rw [h.sliceOf_eq (by omega)]
    exact hFile.magic
  case version =>
    rw [h.numberAt_eq 4 4 (by decide)]
    exact hFile.version
  case size =>
    rw [h.size]
    exact hFile.size
  case compatibility =>
    rw [h.numberAt_eq 0x08 1 (by decide)]
    exact hFile.compatibility
  case tier =>
    rw [h.numberAt_eq 0x0A 1 (by decide)]
    exact hFile.tier
  case targets =>
    rw [h.numberAt_eq 0x58 4 (by decide), h.numberAt_eq 0x54 4 (by decide)]
    exact hInside _ _ hFile.targets
  case save =>
    rw [h.numberAt_eq 0x78 4 (by decide), h.numberAt_eq 0x7C 4 (by decide)]
    exact hInside _ _ hFile.save
  case load =>
    rw [h.numberAt_eq 0x80 4 (by decide), h.numberAt_eq 0x84 4 (by decide)]
    exact hInside _ _ hFile.load

/-- The file with another offset for this part. -/
def write (part : SparePart) (file : ByteArray) (offset : UInt32) : ByteArray :=
  (Bytes.splice file.data.toList part.field (LittleEndian.encode 4 offset.toNat)).toByteArray

theorem moves_write (hSize : part.field + 4 ≤ file.size)
    (hEmpty : (part.range (.declaredIn file)).size = 0)
    (hApart : ∀ range ∈ (Executable.declaredIn file).parts, range.size ≠ 0 →
      range.offset.toNat + range.size.toNat ≤ part.field ∨ part.field + 4 ≤ range.offset.toNat)
    (offset : UInt32) : part.Moves file (part.write file offset) := by
  have hWord : (LittleEndian.encode 4 offset.toNat).length = 4 := LittleEndian.length_encode ..
  have hFits : part.field + (LittleEndian.encode 4 offset.toNat).length ≤
      file.data.toList.length := by
    rw [hWord]
    exact hSize
  constructor
  case size =>
    rw [write, List.size_toByteArray, Bytes.length_splice hFits]
    rfl
  case same =>
    intro i hOutside
    rw [write, List.toList_data_toByteArray, Bytes.getElem?_splice_of_outside hFits]
    rwa [hWord]
  case empty => exact hEmpty
  case apart => exact hApart

end SparePart
end GuestPlugin
