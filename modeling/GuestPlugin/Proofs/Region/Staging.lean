import GuestPlugin.Proofs.Bytes.Splice
import GuestPlugin.Proofs.Region.Placement
import GuestPlugin.Proofs.Storage.Stream
import GuestPlugin.Region.Staging

/-! # The image of an executable

Staging writes at both ends of a memory: the raw header at the top, and from the end of the control
block on the parts with their padding. The two never meet, so no access leaves the memory and what was
written last at either end is what stands there. This holds for every container and every stream.
-/

set_option autoImplicit false

namespace GuestPlugin

def FileRange.bytesIn (range : FileRange) (content : ByteArray) : List UInt8 :=
  Stream.sliceOf content range.offset.toNat range.size.toNat

/-- The parts of an executable one behind the other, as they stand in its file. -/
def Executable.image (e : Executable) (content : ByteArray) : List UInt8 :=
  e.parts.flatMap (·.bytesIn content)

namespace Staged

def totalSize : List FileRange → Nat
  | [] => 0
  | part :: rest => part.size.toNat + totalSize rest

theorem totalSize_append (parts others : List FileRange) :
    totalSize (parts ++ others) = totalSize parts + totalSize others := by
  induction parts with
  | nil => exact (Nat.zero_add _).symm
  | cons part rest ih => rw [List.cons_append, totalSize, totalSize, ih, Nat.add_assoc]

variable {n : Nat}

/-- A copy that went through: where it ended, and the bytes it replaced. -/
structure Copied (memory : Bytes n) (content : ByteArray) (cursor : Nat) (parts : List FileRange)
    (staged : Staged n Nat) (stop : Nat) : Prop where
  stops : stop = cursor + totalSize parts
  length : (parts.flatMap (·.bytesIn content)).length = totalSize parts
  bytes : staged.memory.toList =
    Bytes.splice memory.toList cursor (parts.flatMap (·.bytesIn content))

theorem copied_cons {memory : Bytes n} {content : ByteArray} {cursor stop : Nat}
    {part : FileRange} {rest : List FileRange} {staged : Staged n Nat} (middle : Bytes n)
    (hCursor : cursor ≤ n)
    (hLength : (part.bytesIn content).length = part.size.toNat)
    (hMiddle : middle.toList = Bytes.splice memory.toList cursor (part.bytesIn content))
    (h : Copied middle content (cursor + part.size.toNat) rest staged stop) :
    Copied memory content cursor (part :: rest) staged stop where
  stops := by rw [h.stops, totalSize, Nat.add_assoc]
  length := by rw [List.flatMap_cons, List.length_append, hLength, h.length, totalSize]
  bytes := by
    rw [h.bytes, hMiddle, ← hLength, Bytes.splice_splice (by rwa [Bytes.length_toList]),
      List.flatMap_cons]

theorem copied_cons_of_empty {memory : Bytes n} {content : ByteArray} {cursor stop : Nat}
    {part : FileRange} {rest : List FileRange} {staged : Staged n Nat} (hEmpty : part.size = 0)
    (h : Copied memory content cursor rest staged stop) :
    Copied memory content cursor (part :: rest) staged stop := by
  have hZero : part.size.toNat = 0 := by rw [hEmpty]; rfl
  have hBytes : (part :: rest).flatMap (·.bytesIn content) = rest.flatMap (·.bytesIn content) := by
    rw [List.flatMap_cons, FileRange.bytesIn, hZero, Stream.sliceOf_zero, List.nil_append]
  constructor
  · rw [totalSize, hZero, Nat.zero_add]
    exact h.stops
  · rw [totalSize, hZero, Nat.zero_add, hBytes]
    exact h.length
  · rw [hBytes]
    exact h.bytes

section Steps

variable {memory : Bytes n} {s s' : Stream} {cursor : Nat} {part : FileRange}

theorem copyParts_unread (rest : List FileRange) (hSome : part.size ≠ 0)
    (hRead : s.readAt part.offset.toNat part.size.toNat = (none, s')) :
    copyParts memory s cursor (part :: rest) = some ⟨.error .readFailed, memory, s'⟩ := by
  rw [copyParts, if_neg hSome, hRead]

/-- A part that was read stands behind what was copied before, and copying goes on behind it. -/
theorem copyParts_read (memory : Bytes n) (rest : List FileRange) (hSome : part.size ≠ 0)
    (hRoom : cursor + part.size.toNat ≤ n) {bytes : Bytes part.size.toNat}
    (hRead : s.readAt part.offset.toNat part.size.toNat = (some bytes, s')) :
    ∃ middle, copyParts memory s cursor (part :: rest) =
        copyParts middle s' (cursor + part.size.toNat) rest ∧
      (part.bytesIn s.content).length = part.size.toNat ∧
      middle.toList = Bytes.splice memory.toList cursor (part.bytesIn s.content) := by
  obtain ⟨hFits, hBytes⟩ := Stream.readAt_eq_some hRead
  have hSource : bytes.toByteArray.data.toList = part.bytesIn s.content := hBytes
  have hInside : cursor + bytes.toByteArray.size ≤ n := by rwa [Bytes.size_toByteArray]
  obtain ⟨middle, hMiddle⟩ := memory.exists_write? bytes.toByteArray hInside
  refine ⟨middle, ?_, Stream.length_sliceOf hFits, ?_⟩
  · rw [copyParts, if_neg hSome, hRead]
    simp only [hMiddle, Option.bind_eq_bind, Option.bind_some]
  · rw [Bytes.toList_write?_splice hMiddle, hSource]

end Steps

theorem copyParts_total (parts : List FileRange) (memory : Bytes n) (stream : Stream) (cursor : Nat)
    (hRoom : cursor + totalSize parts ≤ n) :
    ∃ staged, copyParts memory stream cursor parts = some staged ∧
      ∀ stop, staged.result = .ok stop →
        Copied memory stream.content cursor parts staged stop := by
  induction parts generalizing memory stream cursor with
  | nil =>
    refine ⟨_, rfl, ?_⟩
    intro stop hStop
    cases hStop
    exact ⟨rfl, rfl, Bytes.splice_nil.symm⟩
  | cons part rest ih =>
    rw [totalSize] at hRoom
    by_cases hEmpty : part.size = 0
    · obtain ⟨staged, hStaged, hCopied⟩ := ih memory stream cursor (by omega)
      rw [copyParts, if_pos hEmpty]
      exact ⟨staged, hStaged, fun stop hStop => copied_cons_of_empty hEmpty (hCopied stop hStop)⟩
    · have hContent := stream.content_readAt part.offset.toNat part.size.toNat
      rcases hRead : stream.readAt part.offset.toNat part.size.toNat with ⟨_ | bytes, after⟩
      · exact ⟨_, copyParts_unread rest hEmpty hRead, fun stop hStop => by cases hStop⟩
      · rw [hRead] at hContent
        obtain ⟨middle, hCopy, hLength, hMiddle⟩ := copyParts_read memory rest hEmpty
          (show cursor + part.size.toNat ≤ n by omega) hRead
        obtain ⟨staged, hStaged, hCopied⟩ :=
          ih middle after (cursor + part.size.toNat) (by omega)
        refine ⟨staged, hCopy.trans hStaged, fun stop hStop => ?_⟩
        apply copied_cons middle (by omega) hLength hMiddle
        rw [← hContent]
        exact hCopied stop hStop

end Staged

theorem Executable.totalSize_parts (e : Executable) :
    Staged.totalSize e.parts + e.bssSize.toNat = e.extent := by
  simp only [Staged.totalSize, parts, extent]
  omega

/-- An executable that was staged: where it lies, and all the bytes of the memory that holds it. -/
structure Container.IsStaged (c : Container) {size : UInt32} (memory : Bytes size.toNat)
    (content : ByteArray) (placement : Placement) (staged : Bytes size.toNat) : Prop where
  fits : placement.Fits c.executable c.rawHeader.size size
  length : (c.executable.image content).length = Staged.totalSize c.executable.parts
  bytes : staged.toList =
    Bytes.splice
      (Bytes.splice memory.toList placement.rawHeaderStart.toNat c.rawHeader.data.toList)
      Placement.partsStart
      (c.executable.image content ++ List.replicate
        (placement.imageSize.toNat - (Placement.partsStart + (c.executable.image content).length)) 0)

theorem Staged.fill_total (c : Container) {size : UInt32} (memory : Bytes size.toNat)
    (stream : Stream) {placement : Placement}
    (hFits : placement.Fits c.executable c.rawHeader.size size) :
    ∃ staged, fill c placement memory stream = some staged ∧
      ∀ p, staged.result = .ok p →
        p = placement ∧ c.IsStaged memory stream.content placement staged.memory := by
  have hParts := hFits.parts_le
  have hImage := hFits.image_le
  have hTotal := c.executable.totalSize_parts
  obtain ⟨topped, hTop, hTopped⟩ := memory.exists_writeTail? c.rawHeader hFits.header
  obtain ⟨copied, hCopy, hCopied⟩ :=
    copyParts_total c.executable.parts topped stream Placement.partsStart (by omega)
  simp only [fill, hTop, hCopy, Option.bind_eq_bind, Option.bind_some]
  cases hResult : copied.result with
  | error cause => exact ⟨_, rfl, fun p hp => by cases hp⟩
  | ok stop =>
    obtain ⟨hStop, hLength, hBytes⟩ := hCopied stop hResult
    obtain ⟨cleared, hClear, hCleared⟩ := copied.memory.exists_clear?
      (show stop ≤ placement.imageSize.toNat by omega) hImage
    simp only [hClear]
    refine ⟨_, rfl, ?_⟩
    rintro p hp
    cases hp
    have hEnd : stop = Placement.partsStart + (c.executable.image stream.content).length := by
      rw [hStop, Executable.image, hLength]
    refine ⟨rfl, hFits, hLength, ?_⟩
    have hStart : Placement.partsStart ≤ topped.toList.length := by
      rw [Bytes.length_toList]
      omega
    rw [hCleared, hBytes, hEnd, ← hTopped]
    exact Bytes.splice_splice hStart

theorem Container.stage_total (c : Container) {size : UInt32} (memory : Bytes size.toNat)
    (stream : Stream) :
    ∃ staged, c.stage memory stream = some staged ∧
      ∀ p, staged.result = .ok p → c.IsStaged memory stream.content p staged.memory := by
  unfold stage
  split
  · exact ⟨_, rfl, fun p hp => by cases hp⟩
  split
  · exact ⟨_, rfl, fun p hp => by cases hp⟩
  rename_i placement hPlacement
  split
  · obtain ⟨staged, hFill, hStaged⟩ :=
      Staged.fill_total c memory stream (Placement.fits_of_compute hPlacement)
    refine ⟨staged, hFill, fun p hp => ?_⟩
    obtain ⟨rfl, h⟩ := hStaged p hp
    exact h
  · exact ⟨_, rfl, fun p hp => by cases hp⟩

theorem Container.isStaged_of_stage {c : Container} {size : UInt32}
    {memory staged : Bytes size.toNat} {s s' : Stream} {p : Placement}
    (h : c.stage memory s = some ⟨.ok p, staged, s'⟩) :
    c.IsStaged memory s.content p staged := by
  obtain ⟨outcome, hOutcome, hStaged⟩ := c.stage_total memory s
  rw [h] at hOutcome
  cases hOutcome
  exact hStaged p rfl

end GuestPlugin
