import GuestPlugin.Proofs.Container.FieldOrder
import GuestPlugin.Proofs.Loader.Operation

/-! # No access leaves what it is made to

A container is not trusted, and neither is the size of the block that the pool hands out. The one check
that stands between them is made before anything is written. What passes it bounds every range that is
written afterwards, while the executable is copied and while the block is made ready.
-/

set_option autoImplicit false

namespace GuestPlugin

open Program

/-- The ranges of a block of this size that are written once this placement is granted. -/
structure Placement.Bounds (p : Placement) (e : Executable) (rawHeaderSize : Nat)
    (blockSize : UInt32) : Prop where
  header : p.rawHeaderStart.toNat + rawHeaderSize = blockSize.toNat
  /-- A part is copied to where those before it end. -/
  parts : ∀ earlier part later, e.parts = earlier ++ part :: later →
    partsStart + Staged.totalSize earlier + part.size.toNat ≤ p.imageSize.toNat
  padding : partsStart + Staged.totalSize e.parts ≤ p.imageSize.toNat
  apart : p.imageSize.toNat ≤ p.rawHeaderStart.toNat
  controlBlock : ControlBlock.size ≤ blockSize.toNat
  heap : p.heapSize.toNat + p.imageSize.toNat = blockSize.toNat
  image : IsLeast {m | 0x1000 ∣ m ∧ partsStart + e.extent ≤ m} p.imageSize.toNat

namespace Placement

variable {e : Executable} {rawHeaderSize : Nat} {blockSize : UInt32} {p : Placement}

theorem Fits.bounds (h : p.Fits e rawHeaderSize blockSize) :
    p.Bounds e rawHeaderSize blockSize := by
  have hParts := h.parts_le
  have hInside := h.image_le
  have hTotal := e.totalSize_parts
  have hStart : partsStart = ControlBlock.size := rfl
  refine ⟨h.header, ?_, by omega, h.below, by omega, ?_, ?_⟩
  · intro earlier part later hSplit
    rw [hSplit, Staged.totalSize_append, Staged.totalSize] at hTotal
    omega
  · rw [h.toNat_heapSize]
    omega
  · rw [h.image]
    exact imageSizeOf_isLeast e

theorem Bounds.prepare?_isSome {b : ControlBlock} (h : p.Bounds e rawHeaderSize blockSize)
    (hImage : b.imageSize = p.imageSize) (memory : Bytes blockSize.toNat) :
    (b.prepare? memory).isSome := by
  have hHeap := h.heap
  have hInside : b.imageSize.toNat ≤ blockSize.toNat := by
    rw [hImage]
    omega
  obtain ⟨ready, hReady, _⟩ := b.prepare?_total memory h.controlBlock hInside
  rw [hReady]
  rfl

end Placement

namespace Loader

/-- No attempt to load ends in an access outside of what is accessed. The header is read within its own
bytes. Whatever container is staged in whatever block, all that is written lies in the block, and so does
what is written to make the block ready. -/
theorem tryLoad_within_bounds (l : Loader) (guest : Guest) (homebrew : Bool) :
    (∀ calls events result, Runs ((tryLoad guest homebrew).run l) calls events result →
      ∃ answer l', result = some (answer, l')) ∧
    (∀ b : Bytes Header.size, ∃ stop,
      FieldReader.header b Header.leadSize = some (Header.decode b, stop) ∧ stop ≤ Header.size) ∧
    ∀ blockSize : UInt32,
      (∀ (c : Container) (memory : Bytes blockSize.toNat) (stream : Stream),
        ∃ staged, c.stage memory stream = some staged) ∧
      ∀ (e : Executable) (rawHeaderSize : Nat) (p : Placement),
        Placement.compute e rawHeaderSize blockSize = .ok p →
          p.Bounds e rawHeaderSize blockSize ∧
          ∀ (b : ControlBlock) (memory : Bytes blockSize.toNat), b.imageSize = p.imageSize →
            (b.prepare? memory).isSome := by
  refine ⟨?_, ?_, fun blockSize => ⟨?_, ?_⟩⟩
  · intro calls events result hRuns
    obtain ⟨answer, l', hResult, _⟩ := runs_tryLoad hRuns
    exact ⟨answer, l', hResult⟩
  · intro b
    obtain ⟨stop, hHeader, hStop, _⟩ := FieldReader.header_eq_decode b
    exact ⟨stop, hHeader, hStop⟩
  · intro c memory stream
    obtain ⟨staged, hStaged, _⟩ := c.stage_total memory stream
    exact ⟨staged, hStaged⟩
  · intro e rawHeaderSize p hCompute
    have hBounds := (Placement.fits_of_compute hCompute).bounds
    exact ⟨hBounds, fun b memory hImage => hBounds.prepare?_isSome hImage memory⟩

/-- Its image fills a page to the last byte. -/
def fullPage : Executable := ⟨⟨0x88, 8⟩, ⟨0x90, 8⟩, ⟨0, 0⟩, 0xF50⟩

/-- With a block that has no byte to spare the heap is just what the raw header takes. -/
theorem full_block_within_bounds :
    ∃ calls events answer l' p,
      Runs ((tryLoad ⟨1⟩ false).run (.new tightConfig)) calls events (some (answer, l')) ∧
      Placement.compute fullPage Header.size 0x1088 = .ok p ∧
      p.Bounds fullPage Header.size 0x1088 ∧ p.heapSize.toNat = Header.size ∧
      ∀ (b : ControlBlock) (memory : Bytes (0x1088 : UInt32).toNat), b.imageSize = p.imageSize →
        (b.prepare? memory).isSome := by
  obtain ⟨hAnswers, _, hBlocks⟩ := tryLoad_within_bounds (.new tightConfig) ⟨1⟩ false
  obtain ⟨calls, events, hRuns⟩ :=
    exists_runs (fun c => (pure (onePluginHost (.ok ()) c) : StateM Unit c.Answer)) (fun _ => pure ())
      ((tryLoad ⟨1⟩ false).run (.new tightConfig)) ()
  obtain ⟨answer, l', hAnswer⟩ := hAnswers _ _ _ hRuns
  rw [hAnswer] at hRuns
  have hCompute : Placement.compute fullPage Header.size 0x1088 = .ok ⟨0x1088, 0x1000, 0x1000⟩ := by
    decide +kernel
  obtain ⟨hBounds, hPrepare⟩ := (hBlocks 0x1088).2 _ _ _ hCompute
  exact ⟨calls, events, answer, l', _, hRuns, hCompute, hBounds, rfl, hPrepare⟩

end Loader
end GuestPlugin
