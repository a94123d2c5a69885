import GuestPlugin.Proofs.Region.Staging

/-! # A memory made ready for the guest

Writing the control block replaces the first bytes of a memory, clearing the heap all those above the
image. Together with a staged executable nothing of the former contents is left.
-/

set_option autoImplicit false

namespace GuestPlugin

namespace ControlBlock

variable {n : Nat}

theorem splice_encode (b : ControlBlock) (l : List UInt8) :
    Bytes.splice l 0 b.encode = b.encode ++ l.drop size := by
  rw [Bytes.splice, b.length_encode, List.take_zero, List.nil_append, Nat.zero_add]

theorem length_splice_encode (b : ControlBlock) (memory : Bytes n) (h : size ≤ n) :
    (Bytes.splice memory.toList 0 b.encode).length = n := by
  rw [Bytes.length_splice, Bytes.length_toList]
  rw [b.length_encode, Bytes.length_toList]
  omega

/-- A memory with room for it takes a control block, and keeps what stands behind that. -/
theorem exists_write? (b : ControlBlock) (memory : Bytes n) (h : size ≤ n) :
    ∃ written, b.write? memory = some written ∧
      written.toList = Bytes.splice memory.toList 0 b.encode := by
  have hSource : b.encode.toByteArray.data.toList = b.encode := by simp
  have hFits : 0 + b.encode.toByteArray.size ≤ n := by
    rw [List.size_toByteArray, b.length_encode, Nat.zero_add]
    exact h
  obtain ⟨written, hWrite⟩ := memory.exists_write? b.encode.toByteArray hFits
  exact ⟨written, hWrite, by rw [Bytes.toList_write?_splice hWrite, hSource]⟩

theorem prepare?_total (b : ControlBlock) (memory : Bytes n) (hBase : size ≤ n)
    (hImage : b.imageSize.toNat ≤ n) :
    ∃ ready, b.prepare? memory = some ready ∧
      ready.toList = Bytes.splice (Bytes.splice memory.toList 0 b.encode) b.imageSize.toNat
        (List.replicate (n - b.imageSize.toNat) 0) := by
  obtain ⟨written, hWrite, hWritten⟩ := b.exists_write? memory hBase
  obtain ⟨ready, hClear, hReady⟩ := written.exists_clear? hImage (Nat.le_refl n)
  refine ⟨ready, by simp [prepare?, hWrite, hClear], ?_⟩
  rw [hReady, hWritten]

/-- The block, what stood above it in the image, and zeros. -/
theorem prepare?_bytes (b : ControlBlock) (memory : Bytes n) (hBase : size ≤ b.imageSize.toNat)
    (hImage : b.imageSize.toNat ≤ n) :
    ∃ ready, b.prepare? memory = some ready ∧
      ready.toList = b.encode ++ (memory.toList.take b.imageSize.toNat).drop size ++
        List.replicate (n - b.imageSize.toNat) 0 := by
  obtain ⟨ready, hPrepare, hReady⟩ := b.prepare?_total memory (hBase.trans hImage) hImage
  have hLength := b.length_splice_encode memory (hBase.trans hImage)
  refine ⟨ready, hPrepare, ?_⟩
  rw [hReady, Bytes.splice_of_length_le (by rw [hLength, List.length_replicate]; omega), splice_encode,
    List.take_append, b.length_encode, List.take_of_length_le (by rwa [b.length_encode]),
    List.drop_take]

end ControlBlock

/-- The control block, the image and nothing but zeros behind it. -/
theorem Container.IsStaged.ready {c : Container} {regionSize : UInt32}
    {memory staged ready : Bytes regionSize.toNat} {content : ByteArray} {placement : Placement}
    {b : ControlBlock} (h : c.IsStaged memory content placement staged)
    (hImage : b.imageSize = placement.imageSize)
    (hReady : ready.toList = Bytes.splice (Bytes.splice staged.toList 0 b.encode)
      b.imageSize.toNat (List.replicate (regionSize.toNat - b.imageSize.toNat) 0)) :
    ready.toList = b.encode ++ c.executable.image content ++
      List.replicate
        (regionSize.toNat - (ControlBlock.size + (c.executable.image content).length)) 0 := by
  have hParts := h.fits.parts_le
  have hTotal := c.executable.totalSize_parts
  have hLength := h.length
  have hInside := h.fits.image_le
  have hStart : Placement.partsStart = ControlBlock.size := rfl
  have hBlock : b.encode.length = ControlBlock.size := b.length_encode
  rw [hImage] at hReady
  -- The heap reaches the end of the memory, so nothing of what it held is left there.
  have hHeap : ready.toList = (Bytes.splice staged.toList 0 b.encode).take placement.imageSize.toNat ++
      List.replicate (regionSize.toNat - placement.imageSize.toNat) 0 := by
    have hSpliced := b.length_splice_encode staged (by omega)
    exact hReady.trans (Bytes.splice_of_length_le (by rw [hSpliced, List.length_replicate]; omega))
  have hBase : (Bytes.splice memory.toList placement.rawHeaderStart.toNat
      c.rawHeader.data.toList).length = regionSize.toNat := by
    have hHeader : placement.rawHeaderStart.toNat + c.rawHeader.data.toList.length ≤
        memory.toList.length := by
      rw [Bytes.length_toList]
      exact h.fits.header.le
    rw [Bytes.length_splice hHeader, Bytes.length_toList]
  have hAbove : staged.toList.drop ControlBlock.size = c.executable.image content ++
      List.replicate (placement.imageSize.toNat -
        (ControlBlock.size + (c.executable.image content).length)) 0 ++
      (Bytes.splice memory.toList placement.rawHeaderStart.toNat c.rawHeader.data.toList).drop
        placement.imageSize.toNat := by
    rw [h.bytes, hStart, Bytes.drop_splice_self (by omega), List.length_append,
      List.length_replicate]
    congr 2
    omega
  have hFront : (Bytes.splice staged.toList 0 b.encode).take placement.imageSize.toNat =
      b.encode ++ c.executable.image content ++ List.replicate (placement.imageSize.toNat -
        (ControlBlock.size + (c.executable.image content).length)) 0 := by
    rw [b.splice_encode, hAbove, ← List.append_assoc, ← List.append_assoc]
    apply List.take_left'
    simp only [List.length_append, List.length_replicate, hBlock]
    omega
  rw [hHeap, hFront, List.append_assoc, List.replicate_append_replicate]
  congr 2
  omega

end GuestPlugin
