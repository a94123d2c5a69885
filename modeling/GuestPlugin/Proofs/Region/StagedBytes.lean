import GuestPlugin.Proofs.Container.Acceptance
import GuestPlugin.Proofs.Container.Contents
import GuestPlugin.Proofs.Region.Staging

/-! # The bytes of a staged memory

From the first byte to the last: what stood where the control block will be, the parts with zeros behind
them, what stood between the image and the raw header, and the raw header. Which parts these are is looked
up in the file, at the offsets where its header has them.
-/

set_option autoImplicit false

namespace GuestPlugin

/-- The executable that the header at the front of a file declares. -/
def Executable.declaredIn (file : ByteArray) : Executable :=
  let field (offset : Nat) := (Container.numberAt file offset 4).toUInt32
  ⟨⟨field 0x5C, field 0x68⟩, ⟨field 0x60, field 0x6C⟩, ⟨field 0x64, field 0x70⟩, field 0x74⟩

theorem Executable.image_eq (e : Executable) (file : ByteArray) :
    e.image file = e.code.bytesIn file ++ e.rodata.bytesIn file ++ e.data.bytesIn file := by
  simp only [image, parts, List.flatMap_cons, List.flatMap_nil, List.append_nil, List.append_assoc]

/-- What a memory holds once an executable of a file was staged in it with a raw header, byte for byte. -/
structure Executable.StagedIn (e : Executable) (file rawHeader : ByteArray) (p : Placement)
    {size : UInt32} (memory staged : Bytes size.toNat) : Prop where
  code : (e.code.bytesIn file).length = e.code.size.toNat
  rodata : (e.rodata.bytesIn file).length = e.rodata.size.toNat
  data : (e.data.bytesIn file).length = e.data.size.toNat
  ends : 0xA0 + e.code.size.toNat + e.rodata.size.toNat + e.data.size.toNat ≤ p.imageSize.toNat
  apart : p.imageSize.toNat ≤ p.rawHeaderStart.toNat
  top : p.rawHeaderStart.toNat + rawHeader.size = size.toNat
  bytes : staged.toList = memory.toList.take 0xA0 ++
    (e.code.bytesIn file ++ e.rodata.bytesIn file ++ e.data.bytesIn file) ++
    List.replicate (p.imageSize.toNat -
      (0xA0 + e.code.size.toNat + e.rodata.size.toNat + e.data.size.toNat)) 0 ++
    (memory.toList.drop p.imageSize.toNat).take (p.rawHeaderStart.toNat - p.imageSize.toNat) ++
    rawHeader.data.toList

theorem Header.words_of_decode {bytes : Bytes size} {header : Header} (h : decode bytes = .ok header) :
    header.manifest.checksum = bytes.word 0x50 (by decide) ∧ header.executable =
      ⟨⟨bytes.word 0x5C (by decide), bytes.word 0x68 (by decide)⟩,
        ⟨bytes.word 0x60 (by decide), bytes.word 0x6C (by decide)⟩,
        ⟨bytes.word 0x64 (by decide), bytes.word 0x70 (by decide)⟩, bytes.word 0x74 (by decide)⟩ := by
  rw [decode] at h
  rcases hCompatibility : Compatibility.ofByte (bytes.get 0x08 (by decide)) with _ | compatibility
  · rw [hCompatibility] at h
    cases h
  rcases hTier : Tier.ofByte (bytes.get 0x0A (by decide)) with _ | tier
  · rw [hCompatibility, hTier] at h
    cases h
  rw [hCompatibility, hTier] at h
  cases h
  exact ⟨rfl, rfl⟩

theorem Header.executable_of_decode {bytes : Bytes size} {header : Header} {file : ByteArray}
    (hBytes : bytes.toList = Stream.sliceOf file 0 size) (h : decode bytes = .ok header) :
    header.executable = .declaredIn file := by
  rw [(words_of_decode h).2]
  simp only [Executable.declaredIn, Container.word_eq hBytes]

theorem Header.checksum_of_decode {bytes : Bytes size} {header : Header} {file : ByteArray}
    (hBytes : bytes.toList = Stream.sliceOf file 0 size) (h : decode bytes = .ok header) :
    header.manifest.checksum = (Container.numberAt file 0x50 4).toUInt32 := by
  rw [(words_of_decode h).1, Container.word_eq hBytes]

namespace Container

theorem Reports.executable_eq {c : Container} {file : ByteArray} {bytes : Bytes Header.size}
    {header : Header} (h : c.Reports file bytes header) : c.executable = .declaredIn file := by
  rw [h.executable]
  exact Header.executable_of_decode h.front h.decoded

theorem executable_of_parse {s s' : Stream} {c : Container} (h : parse s = (.ok c, s')) :
    c.executable = .declaredIn s.content := by
  obtain ⟨_, _, _, hReports⟩ := reports_of_parse h
  exact hReports.executable_eq

theorem IsStaged.length_image {c : Container} {size : UInt32} {memory staged : Bytes size.toNat}
    {file : ByteArray} {p : Placement} (h : c.IsStaged memory file p staged) :
    (c.executable.image file).length = c.executable.code.size.toNat +
      c.executable.rodata.size.toNat + c.executable.data.size.toNat := by
  rw [h.length]
  simp only [Executable.parts, Staged.totalSize]
  omega

/-- Every part is as long as it is said to be, because together they are. -/
theorem IsStaged.length_bytesIn {c : Container} {size : UInt32} {memory staged : Bytes size.toNat}
    {file : ByteArray} {p : Placement} (h : c.IsStaged memory file p staged) :
    (c.executable.code.bytesIn file).length = c.executable.code.size.toNat ∧
      (c.executable.rodata.bytesIn file).length = c.executable.rodata.size.toNat ∧
      (c.executable.data.bytesIn file).length = c.executable.data.size.toNat := by
  have hAtMost (range : FileRange) : (range.bytesIn file).length ≤ range.size.toNat :=
    List.length_take_le _ _
  have hCode := hAtMost c.executable.code
  have hRodata := hAtMost c.executable.rodata
  have hData := hAtMost c.executable.data
  have hTotal := h.length_image
  simp only [Executable.image_eq, List.length_append] at hTotal
  omega

theorem IsStaged.toList_eq {c : Container} {size : UInt32} {memory staged : Bytes size.toNat}
    {file : ByteArray} {p : Placement} (h : c.IsStaged memory file p staged) :
    staged.toList = memory.toList.take Placement.partsStart ++ c.executable.image file ++
      List.replicate
        (p.imageSize.toNat - (Placement.partsStart + (c.executable.image file).length)) 0 ++
      (memory.toList.drop p.imageSize.toNat).take (p.rawHeaderStart.toNat - p.imageSize.toNat) ++
      c.rawHeader.data.toList := by
  have hParts := h.fits.parts_le
  have hTotal := c.executable.totalSize_parts
  have hBelow := h.fits.below
  have hLength := h.length
  have hHeader : p.rawHeaderStart.toNat + c.rawHeader.data.toList.length = size.toNat := h.fits.header
  have hStart : p.rawHeaderStart.toNat ≤ memory.toList.length := by
    rw [Bytes.length_toList]
    omega
  have hBehind : memory.toList.drop (p.rawHeaderStart.toNat + c.rawHeader.data.toList.length) = [] := by
    apply List.drop_eq_nil_of_le
    rw [Bytes.length_toList]
    omega
  have hImage : Placement.partsStart + (c.executable.image file ++ List.replicate
      (p.imageSize.toNat - (Placement.partsStart + (c.executable.image file).length)) 0).length =
        p.imageSize.toNat := by
    rw [List.length_append, List.length_replicate]
    omega
  rw [h.bytes, Bytes.splice, hImage, Bytes.take_splice_of_le (by omega) hStart,
    Bytes.drop_splice_of_le hBelow hStart, hBehind, List.append_nil]
  simp only [List.append_assoc]

theorem IsStaged.stagedIn {c : Container} {size : UInt32} {memory staged : Bytes size.toNat}
    {file : ByteArray} {p : Placement} (h : c.IsStaged memory file p staged) :
    c.executable.StagedIn file c.rawHeader p memory staged := by
  obtain ⟨hCode, hRodata, hData⟩ := h.length_bytesIn
  have hParts := h.fits.parts_le
  have hStart : Placement.partsStart = 0xA0 := rfl
  have hSum := Placement.partsStart_add_extent c.executable
  have hEnd : Placement.partsStart + (c.executable.image file).length = 0xA0 +
      c.executable.code.size.toNat + c.executable.rodata.size.toNat +
        c.executable.data.size.toNat := by
    rw [h.length_image, hStart]
    omega
  refine ⟨hCode, hRodata, hData, by omega, h.fits.below, h.fits.header, ?_⟩
  rw [h.toList_eq, hEnd, Executable.image_eq, hStart]

/-- Staging that succeeds leaves a memory in which the parts stand as they do in the file the container
was read from, the raw header ends with the last byte, and nothing but these two stretches was written.
It does not matter where the stream stood, or that other calls on it fail. -/
theorem stage_ok_bytes {s s' u u' : Stream} {file : ByteArray} {c : Container} {size : UInt32}
    {memory staged : Bytes size.toNat} {p : Placement} (hOpened : s.content = file)
    (hParse : parse s = (.ok c, s')) (hFile : u.content = file)
    (hStage : c.stage memory u = some ⟨.ok p, staged, u'⟩) :
    (Executable.declaredIn file).StagedIn file c.rawHeader p memory staged := by
  obtain ⟨_, bytes, header, hReports⟩ := reports_of_parse hParse
  have hIsStaged := isStaged_of_stage hStage
  rw [hOpened] at hReports
  rw [hFile] at hIsStaged
  rw [← hReports.executable_eq]
  exact hIsStaged.stagedIn

/-- A plugin with one target, whose code and constants share four bytes, and whose data is empty and lies
at the end of the file. -/
def sharingFile : ByteArray :=
  ("3GX$".toUTF8.data.toList ++ LittleEndian.encodeWords
    (2 :: List.replicate 18 0 ++ [0, 1, 0x88, 0x90, 0x94, 0x9C, 8, 8, 0, 0x20, 0, 0, 0, 0,
      5, 0, 0xE1A00000, 0xE12FFF1E, 7])).toByteArray

theorem exists_stage_of_check {s u : Stream} {size : UInt32} {memory : Bytes size.toNat}
    {check : Staged size.toNat Placement → Bool}
    (h : ((parse s).1.toOption.bind fun c => c.stage memory u).any check) :
    ∃ c s' staged, parse s = (.ok c, s') ∧ c.stage memory u = some staged ∧ check staged := by
  rcases hParse : parse s with ⟨cause | c, s'⟩
  · rw [hParse] at h
    cases h
  · rw [hParse] at h
    obtain ⟨staged, hStage, hCheck⟩ := (Option.any_eq_true _ _).mp h
    exact ⟨c, s', staged, rfl, hStage, hCheck⟩

theorem exists_staged_of_check {s u : Stream} {size : UInt32} {memory : Bytes size.toNat}
    (h : ((parse s).1.toOption.bind fun c => c.stage memory u).any (·.result.toBool)) :
    ∃ c s' p staged u', parse s = (.ok c, s') ∧ c.stage memory u = some ⟨.ok p, staged, u'⟩ := by
  obtain ⟨c, s', ⟨cause | p, staged, u'⟩, hParse, hStage, hOk⟩ := exists_stage_of_check h
  · cases hOk
  · exact ⟨c, s', p, staged, u', hParse, hStage⟩

/-- A block of stale bytes, just large enough for the file above: its raw header begins where its image
ends. -/
def staleMemory : Bytes (0x1090 : UInt32).toNat := .replicate _ 0xAA

set_option maxRecDepth 100000 in
theorem exists_staged_sharingFile :
    ∃ c s' p staged u', parse (.ofContent sharingFile) = (.ok c, s') ∧
      c.stage staleMemory s' = some ⟨.ok p, staged, u'⟩ := by
  have hCheck : (((parse (.ofContent sharingFile)).1.toOption.bind fun c =>
      c.stage staleMemory (parse (.ofContent sharingFile)).2).any (·.result.toBool)) := by
    decide +kernel
  obtain ⟨c, s', p, staged, u', hParse, hStage⟩ := exists_staged_of_check hCheck
  rw [hParse] at hStage
  exact ⟨c, s', p, staged, u', hParse, hStage⟩

theorem sharing_parts_staged :
    ∃ c s' p staged u', parse (.ofContent sharingFile) = (.ok c, s') ∧
      c.stage staleMemory s' = some ⟨.ok p, staged, u'⟩ ∧
      (Executable.declaredIn sharingFile).StagedIn sharingFile c.rawHeader p staleMemory staged := by
  obtain ⟨c, s', p, staged, u', hParse, hStage⟩ := exists_staged_sharingFile
  have hOpened := (Stream.isFile_ofContent sharingFile).content
  have hContent := (content_of_parse hParse).trans hOpened
  exact ⟨c, s', p, staged, u', hParse, hStage, stage_ok_bytes hOpened hParse hContent hStage⟩

end Container
end GuestPlugin
