import GuestPlugin.Proofs.Container.Extension
import GuestPlugin.Proofs.Container.SparePart
import GuestPlugin.Proofs.Region.StagingVerdict
import Mathlib.Data.List.Forall2

/-! # Where an empty part is said to lie

Two files that differ in the offset of an empty part only are staged in step: the same calls are made with
the same answers, and the same bytes are written but for the header itself. What the offset decides is a
single check. An empty part that begins behind the end of the file is refused, though nothing would be read
of it.
-/

set_option autoImplicit false

namespace GuestPlugin

/-- Two parts of which the same is copied. -/
inductive FileRange.CopiesAs (file file' : ByteArray) : FileRange → FileRange → Prop where
  | empty {range range' : FileRange} (h : range.size = 0) (h' : range'.size = 0) :
      CopiesAs file file' range range'
  | same {range : FileRange} (h : range.bytesIn file' = range.bytesIn file) :
      CopiesAs file file' range range

theorem SparePart.Moves.copiesAs {part : SparePart} {file file' : ByteArray}
    (h : part.Moves file file') :
    List.Forall₂ (FileRange.CopiesAs file file') (Executable.declaredIn file).parts
      (Executable.declaredIn file').parts := by
  have hSame (range : FileRange) (hRange : range ∈ (Executable.declaredIn file).parts) :
      range.CopiesAs file file' range := by
    by_cases hEmpty : range.size = 0
    · exact .empty hEmpty hEmpty
    · exact .same (h.sliceOf_eq (h.apart range hRange hEmpty))
  have hMoved (offset : UInt32) : (part.range (.declaredIn file)).CopiesAs file file'
      ⟨offset, (part.range (.declaredIn file)).size⟩ := .empty h.empty h.empty
  have hCode := hSame (Executable.declaredIn file).code (by simp [Executable.parts])
  rw [h.declaredIn_eq]
  cases part with
  | rodata =>
    have hData := hSame (Executable.declaredIn file).data (by simp [Executable.parts])
    exact .cons hCode (.cons (hMoved _) (.cons hData .nil))
  | data =>
    have hRodata := hSame (Executable.declaredIn file).rodata (by simp [Executable.parts])
    exact .cons hCode (.cons hRodata (.cons (hMoved _) .nil))

namespace Staged

variable {n : Nat} {allowed : Nat → Prop}

/-- Copies that come to the same, with memories that differ at these places at most. -/
def SameCourse {α : Type} (allowed : Nat → Prop) (first second : Staged n α) : Prop :=
  second.result = first.result ∧ first.memory.SameOutside allowed second.memory

theorem copyParts_inStep {file file' : ByteArray} {parts parts' : List FileRange}
    (hParts : List.Forall₂ (FileRange.CopiesAs file file') parts parts') {a b : Bytes n} {s t : Stream}
    {cursor : Nat} (hs : s.content = file) (ht : t.content = file') (hStep : s.InStep t)
    (hMemory : a.SameOutside allowed b) (hRoom : cursor + totalSize parts ≤ n) :
    ∃ first second, copyParts a s cursor parts = some first ∧
      copyParts b t cursor parts' = some second ∧ SameCourse allowed first second := by
  -- After a part that was read the streams are in step again, and the memories as much alike as before.
  induction hParts generalizing a b s t cursor with
  | nil => exact ⟨_, _, rfl, rfl, rfl, hMemory⟩
  | @cons part part' rest rest' hPart _ ih =>
    rw [totalSize] at hRoom
    cases hPart with
    | empty hEmpty hEmpty' =>
      rw [copyParts, copyParts, if_pos hEmpty, if_pos hEmpty']
      exact ih hs ht hStep hMemory (by omega)
    | same hBytes =>
      by_cases hEmpty : part.size = 0
      · rw [copyParts, copyParts, if_pos hEmpty, if_pos hEmpty]
        exact ih hs ht hStep hMemory (by omega)
      have hSlice : Stream.sliceOf t.content part.offset.toNat part.size.toNat =
          Stream.sliceOf s.content part.offset.toNat part.size.toNat := by
        rw [hs, ht]
        exact hBytes
      rcases hStep.readAt_cases hSlice with
        ⟨s', t', hNone, hNone'⟩ | ⟨bytes, s', t', hSome, hSome', hSource, hSource', hNext⟩
      · exact ⟨_, _, copyParts_unread rest hEmpty hNone, copyParts_unread rest' hEmpty hNone', rfl,
          hMemory⟩
      · obtain ⟨first, hFirst, hLength, hWritten⟩ := copyParts_read a rest hEmpty
          (show cursor + part.size.toNat ≤ n by omega) hSome
        obtain ⟨second, hSecond, _, hWritten'⟩ := copyParts_read b rest' hEmpty
          (show cursor + part.size.toNat ≤ n by omega) hSome'
        rw [hs] at hLength hWritten
        rw [ht, hBytes] at hWritten'
        rw [hFirst, hSecond]
        apply ih (hSource.trans hs) (hSource'.trans ht) hNext ?_ (by omega)
        exact hMemory.splice (by omega) hWritten hWritten'

variable {c d : Container} {size : UInt32} {file file' : ByteArray} {s t : Stream}

theorem fill_inStep {p : Placement} (hFits : p.Fits c.executable c.rawHeader.size size)
    (hHeader : d.rawHeader.size = c.rawHeader.size)
    (hParts : List.Forall₂ (FileRange.CopiesAs file file') c.executable.parts d.executable.parts)
    (memory : Bytes size.toNat) (hs : s.content = file) (ht : t.content = file')
    (hStep : s.InStep t) :
    ∃ first second, fill c p memory s = some first ∧ fill d p memory t = some second ∧
      SameCourse (p.rawHeaderStart.toNat ≤ ·) first second := by
  have hTop := hFits.header
  have hBehind := hFits.parts_le
  have hImage := hFits.image_le
  have hTotal := c.executable.totalSize_parts
  obtain ⟨a, hWrite, ha⟩ := memory.exists_writeTail? c.rawHeader hTop
  obtain ⟨b, hWrite', hb⟩ := memory.exists_writeTail? d.rawHeader (by rw [hHeader]; exact hTop)
  have hMemory : a.SameOutside (p.rawHeaderStart.toNat ≤ ·) b := by
    have hAbove := Bytes.sameOutside_of_splice (Nat.le_of_eq hTop) ha
    have hAbove' := Bytes.sameOutside_of_splice (by rw [← hTop, ← hHeader]; exact Nat.le_refl _) hb
    exact (hAbove.symm.mono fun _ _ h => h.1).trans (hAbove'.mono fun _ _ h => h.1)
  obtain ⟨copied, copied', hCopy, hCopy', hResult, hSame⟩ :=
    copyParts_inStep hParts hs ht hStep hMemory (show Placement.partsStart + _ ≤ _ by omega)
  -- How far the copies went is known from one of them.
  obtain ⟨_, hAgain, hCopied⟩ :=
    copyParts_total c.executable.parts a s Placement.partsStart (by omega)
  cases hCopy.symm.trans hAgain
  simp only [fill, hWrite, hWrite', hCopy, hCopy', hResult, Option.bind_eq_bind, Option.bind_some]
  cases hOutcome : copied.result with
  | error cause => exact ⟨_, _, rfl, rfl, rfl, hSame⟩
  | ok stop =>
    have hStop := (hCopied stop hOutcome).stops
    have hRoom : stop ≤ p.imageSize.toNat := by omega
    obtain ⟨cleared, hClear, hCleared⟩ := copied.memory.exists_clear? hRoom hImage
    obtain ⟨cleared', hClear', hCleared'⟩ := copied'.memory.exists_clear? hRoom hImage
    simp only [hClear, hClear']
    refine ⟨_, _, rfl, rfl, rfl, hSame.splice ?_ hCleared hCleared'⟩
    rw [List.length_replicate]
    omega

end Staged

namespace SparePart

variable (part : SparePart) (e : Executable) (offset : UInt32)

theorem code_moveTo : (part.moveTo e offset).code = e.code := by
  cases part <;> rfl

theorem imageExtent_moveTo : (part.moveTo e offset).imageExtent = e.imageExtent := by
  cases part <;> rfl

theorem compute_moveTo (rawHeaderSize : Nat) (regionSize : UInt32) :
    Placement.compute (part.moveTo e offset) rawHeaderSize regionSize =
      Placement.compute e rawHeaderSize regionSize := by
  cases part <;> rfl

theorem range_moveTo : part.range (part.moveTo e offset) = ⟨offset, (part.range e).size⟩ := by
  cases part <;> rfl

theorem all_moveTo {check : FileRange → Bool}
    (h : check (part.range (part.moveTo e offset)) = check (part.range e)) :
    (part.moveTo e offset).parts.all check = e.parts.all check := by
  cases part
  all_goals
    simp only [range, moveTo] at h
    simp only [moveTo, Executable.parts, List.all_cons, h]

end SparePart

namespace Container

/-- Two containers that say the same, but for where an empty part lies and what their headers are. -/
structure Moved (part : SparePart) (file file' : ByteArray) (c d : Container) : Prop where
  executable : d.executable = part.moveTo c.executable (part.range d.executable).offset
  empty : (part.range c.executable).size = 0
  parts : List.Forall₂ (FileRange.CopiesAs file file') c.executable.parts d.executable.parts
  checksum : d.manifest.checksum = c.manifest.checksum
  load : d.payloads.load.size = c.payloads.load.size
  rawHeader : d.rawHeader.size = c.rawHeader.size
  fileLength : d.fileLength = c.fileLength

/-- The places of the raw header in a block of this size, if it is staged there. -/
def HeaderAt (c : Container) (size : UInt32) (i : Nat) : Prop :=
  ∃ p, Placement.compute c.executable c.rawHeader.size size = .ok p ∧ p.rawHeaderStart.toNat ≤ i

/-- What staging comes to once a part lies outside the file. The checks before that one come first. -/
def turnedAway : Except ImageError Placement → Except ImageError Placement
  | .ok _ | .error .readFailed => .error .outsideFile
  | .error cause => .error cause

namespace Moved

variable {part : SparePart} {file file' : ByteArray} {c d : Container} {size : UInt32}
  {s t : Stream}

theorem compute_eq (h : Moved part file file' c d) (size : UInt32) :
    Placement.compute d.executable d.rawHeader.size size =
      Placement.compute c.executable c.rawHeader.size size := by
  rw [h.executable, h.rawHeader, SparePart.compute_moveTo]

theorem lacksLoadRoutine_eq (h : Moved part file file' c d) :
    d.lacksLoadRoutine = c.lacksLoadRoutine := by
  rw [lacksLoadRoutine, lacksLoadRoutine, h.checksum, h.load, h.executable, SparePart.code_moveTo]

theorem all_endsWithin_eq (h : Moved part file file' c d)
    (hSide : (part.range d.executable).offset.toNat ≤ c.fileLength ↔
      (part.range c.executable).offset.toNat ≤ c.fileLength) :
    d.executable.parts.all (·.endsWithin d.fileLength) =
      c.executable.parts.all (·.endsWithin c.fileLength) := by
  rw [h.fileLength, h.executable]
  apply SparePart.all_moveTo
  have hZero : (part.range c.executable).size.toNat = 0 := by
    rw [h.empty]
    rfl
  rw [SparePart.range_moveTo, FileRange.endsWithin, FileRange.endsWithin, hZero, decide_eq_decide]
  exact hSide

theorem stage_inStep (h : Moved part file file' c d)
    (hSide : (part.range d.executable).offset.toNat ≤ c.fileLength ↔
      (part.range c.executable).offset.toNat ≤ c.fileLength)
    (hs : s.content = file) (ht : t.content = file') (hStep : s.InStep t)
    (memory : Bytes size.toNat) :
    ∃ first second, c.stage memory s = some first ∧ d.stage memory t = some second ∧
      Staged.SameCourse (c.HeaderAt size) first second := by
  rw [stage, stage, h.lacksLoadRoutine_eq, h.compute_eq, h.all_endsWithin_eq hSide]
  split
  · exact ⟨_, _, rfl, rfl, rfl, .refl _ _⟩
  cases hPlacement : Placement.compute c.executable c.rawHeader.size size with
  | error cause => exact ⟨_, _, rfl, rfl, rfl, .refl _ _⟩
  | ok p =>
    dsimp only
    split
    · obtain ⟨first, second, hFirst, hSecond, hResult, hMemory⟩ := Staged.fill_inStep
        (Placement.fits_of_compute hPlacement) h.rawHeader h.parts memory hs ht hStep
      refine ⟨first, second, hFirst, hSecond, hResult, hMemory.mono ?_⟩
      exact fun i _ hAbove => ⟨p, hPlacement, hAbove⟩
    · exact ⟨_, _, rfl, rfl, rfl, .refl _ _⟩

theorem stagingVerdict_of_beyond (h : Moved part file file' c d)
    (hBeyond : c.fileLength < (part.range d.executable).offset.toNat) :
    d.stagingVerdict size t = turnedAway (c.stagingVerdict size s) := by
  have hOutside : d.fileLength < d.executable.code.offset.toNat + d.executable.code.size.toNat ∨
      d.fileLength < d.executable.rodata.offset.toNat + d.executable.rodata.size.toNat ∨
      d.fileLength < d.executable.data.offset.toNat + d.executable.data.size.toNat := by
    rw [← h.fileLength] at hBeyond
    cases part with
    | rodata => exact .inr (.inl (Nat.lt_add_right _ hBeyond))
    | data => exact .inr (.inr (Nat.lt_add_right _ hBeyond))
  rw [stagingVerdict, stagingVerdict, if_pos hOutside, h.checksum, h.load, h.rawHeader, h.executable,
    SparePart.code_moveTo, SparePart.imageExtent_moveTo]
  split
  · rfl
  split
  · rfl
  split
  · rfl
  split <;> rfl

theorem stage_of_beyond (h : Moved part file file' c d)
    (hBeyond : c.fileLength < (part.range d.executable).offset.toNat) (memory : Bytes size.toNat)
    (s t : Stream) :
    ∃ first second, c.stage memory s = some first ∧ d.stage memory t = some second ∧
      second.result = turnedAway first.result ∧ second.memory = memory := by
  obtain ⟨first, hFirst, hVerdict, _⟩ := c.stage_cases memory s
  obtain ⟨second, hSecond, hVerdict', hRefused, _⟩ := d.stage_cases memory t
  have hResult : second.result = turnedAway first.result := by
    rw [hVerdict, hVerdict', h.stagingVerdict_of_beyond hBeyond]
  refine ⟨first, second, hFirst, hSecond, hResult, ?_⟩
  cases hOutcome : first.result with
  | ok p =>
    rw [hOutcome] at hResult
    exact (hRefused _ hResult nofun).1
  | error cause =>
    rw [hOutcome] at hResult
    cases cause <;> exact (hRefused _ hResult nofun).1

end Moved

section Reading

variable {c d : Container} {file : ByteArray} {bytes : Bytes Header.size} {header : Header}

theorem Reports.size_load (h : c.Reports file bytes header) :
    c.payloads.load.size = min (numberAt file 0x84 4) (file.size - numberAt file 0x80 4) := by
  have hHeader := isHeader_of_decode h.front h.decoded
  have hLength := congrArg List.length h.load
  rwa [Stream.length_sliceOf_eq, hHeader.loadSize, hHeader.loadOffset] at hLength

theorem Reports.size_rawHeader (h : c.Reports file bytes header) :
    c.rawHeader.size = min Header.size file.size +
      min (8 * numberAt file 0x54 4) (file.size - numberAt file 0x58 4) := by
  have hHeader := isHeader_of_decode h.front h.decoded
  have hLength := congrArg List.length h.rawHeader
  rwa [List.length_append, Stream.length_sliceOf_eq, Stream.length_sliceOf_eq, hHeader.targetCount,
    hHeader.targetOffset] at hLength

theorem moved_of_parse {part : SparePart} {file file' : ByteArray} {s s' t t' : Stream}
    (hFiles : part.Moves file file') (hs : s.content = file) (ht : t.content = file')
    (hLength : t.length = s.length) (hParse : parse s = (.ok c, s'))
    (hParse' : parse t = (.ok d, t')) : Moved part file file' c d := by
  obtain ⟨hEnd, bytes, header, hc⟩ := reports_of_parse hParse
  obtain ⟨hEnd', bytes', header', hd⟩ := reports_of_parse hParse'
  rw [hs] at hc
  rw [ht] at hd
  constructor
  case executable =>
    rw [hc.executable_eq, hd.executable_eq]
    exact hFiles.declaredIn_eq
  case empty =>
    rw [hc.executable_eq]
    exact hFiles.empty
  case parts =>
    rw [hc.executable_eq, hd.executable_eq]
    exact hFiles.copiesAs
  case checksum =>
    rw [hc.manifest, hd.manifest, Header.checksum_of_decode hc.front hc.decoded,
      Header.checksum_of_decode hd.front hd.decoded, hFiles.numberAt_eq 0x50 4 (by decide)]
  case load =>
    rw [hc.size_load, hd.size_load, hFiles.size, hFiles.numberAt_eq 0x80 4 (by decide),
      hFiles.numberAt_eq 0x84 4 (by decide)]
  case rawHeader =>
    rw [hc.size_rawHeader, hd.size_rawHeader, hFiles.size, hFiles.numberAt_eq 0x54 4 (by decide),
      hFiles.numberAt_eq 0x58 4 (by decide)]
  case fileLength => rw [hEnd, hEnd', hLength]

end Reading

/-- Of two files that differ in the offset of an empty part only, staging makes the same and writes the same
but for the header, as long as both offsets are on the same side of the end of the file. An offset behind it
has the container turned away before anything is written, even where nothing would be read. Whoever reads the
container takes an empty range from anywhere. -/
theorem stage_of_empty_part {part : SparePart} {file file' : ByteArray} {s s' t t' u v : Stream}
    {c d : Container} (hFiles : part.Moves file file') (hs : s.content = file)
    (ht : t.content = file') (hLength : t.length = s.length) (hParse : parse s = (.ok c, s'))
    (hParse' : parse t = (.ok d, t')) (hu : u.content = file) (hv : v.content = file')
    (hStep : u.InStep v) {size : UInt32} (memory : Bytes size.toNat) :
    (∃ first second, c.stage memory u = some first ∧ d.stage memory v = some second ∧
      (((part.range d.executable).offset.toNat ≤ c.fileLength ↔
          (part.range c.executable).offset.toNat ≤ c.fileLength) →
        second.result = first.result ∧
          first.memory.SameOutside (c.HeaderAt size) second.memory) ∧
      (c.fileLength < (part.range d.executable).offset.toNat →
        second.result = turnedAway first.result ∧ second.memory = memory)) ∧
      ∀ (w : Stream) (offset : Nat), w.readRange offset 0 = (some .empty, w) := by
  have hMoved := moved_of_parse hFiles hs ht hLength hParse hParse'
  obtain ⟨first, hFirst, _⟩ := c.stage_cases memory u
  obtain ⟨second, hSecond, _⟩ := d.stage_cases memory v
  refine ⟨⟨first, second, hFirst, hSecond, ?_, ?_⟩, fun _ _ => rfl⟩
  · intro hSide
    obtain ⟨_, _, hFirst', hSecond', hCourse⟩ := hMoved.stage_inStep hSide hu hv hStep memory
    cases hFirst.symm.trans hFirst'
    cases hSecond.symm.trans hSecond'
    exact hCourse
  · intro hBeyond
    obtain ⟨_, _, hFirst', hSecond', hTurned⟩ := hMoved.stage_of_beyond hBeyond memory u v
    cases hFirst.symm.trans hFirst'
    cases hSecond.symm.trans hSecond'
    exact hTurned

theorem moves_smallFile (offset : UInt32) :
    SparePart.rodata.Moves smallFile (SparePart.rodata.write smallFile offset) := by
  apply SparePart.moves_write <;> decide +kernel

theorem empty_part_at_end_of_file :
    ∃ c d s' t' first second,
      SparePart.rodata.Moves smallFile (SparePart.rodata.write smallFile 0x8C) ∧
      parse (.ofContent smallFile) = (.ok c, s') ∧
      parse (.ofContent (SparePart.rodata.write smallFile 0x8C)) = (.ok d, t') ∧
      c.stage staleMemory s' = some first ∧ d.stage staleMemory t' = some second ∧
      second.result = first.result ∧
      first.memory.SameOutside (c.HeaderAt 0x1090) second.memory := by
  have hFiles := moves_smallFile 0x8C
  have hs := Stream.isFile_ofContent smallFile
  have ht := Stream.isFile_ofContent (SparePart.rodata.write smallFile 0x8C)
  obtain ⟨c, s', hParse⟩ := exists_parse_of_acceptable hs acceptable_smallFile
  obtain ⟨d, t', hParse'⟩ := exists_parse_of_acceptable ht (hFiles.acceptable acceptable_smallFile)
  have hu := isFile_of_parse hs hParse
  have hv := isFile_of_parse ht hParse'
  have hLength := ht.length.trans (hFiles.size.trans hs.length.symm)
  obtain ⟨⟨first, second, hFirst, hSecond, hSame, _⟩, _⟩ := stage_of_empty_part hFiles hs.content
    ht.content hLength hParse hParse' hu.content hv.content
    (Stream.inStep_of_isFile hu hv hFiles.size) staleMemory
  obtain ⟨hEnd, _, _, hc⟩ := reports_of_parse hParse
  obtain ⟨_, _, _, hd⟩ := reports_of_parse hParse'
  have hSide : (SparePart.rodata.range d.executable).offset.toNat ≤ c.fileLength ↔
      (SparePart.rodata.range c.executable).offset.toNat ≤ c.fileLength := by
    rw [hEnd, hc.executable_eq, hd.executable_eq]
    decide +kernel
  exact ⟨c, d, s', t', first, second, hFiles, hParse, hParse', hFirst, hSecond, hSame hSide⟩

set_option maxRecDepth 100000 in
/-- One byte further, and the same plugin is refused. Neither file has targets or payloads. -/
theorem empty_part_behind_end_of_file :
    ∃ c d s' t' first second,
      SparePart.rodata.Moves smallFile (SparePart.rodata.write smallFile 0x8D) ∧
      numberAt smallFile 0x54 4 = 0 ∧ numberAt smallFile 0x7C 4 = 0 ∧
      numberAt smallFile 0x84 4 = 0 ∧ parse (.ofContent smallFile) = (.ok c, s') ∧
      parse (.ofContent (SparePart.rodata.write smallFile 0x8D)) = (.ok d, t') ∧
      c.stage staleMemory s' = some first ∧ d.stage staleMemory t' = some second ∧
      first.result = .ok ⟨0x1090, 0x1000, 0x1008⟩ ∧ second.result = .error .outsideFile := by
  have hNear : (((parse (.ofContent smallFile)).1.toOption.bind fun c =>
      c.stage staleMemory (parse (.ofContent smallFile)).2).any
        (·.result = .ok ⟨0x1090, 0x1000, 0x1008⟩)) := by decide +kernel
  have hFar : (((parse (.ofContent (SparePart.rodata.write smallFile 0x8D))).1.toOption.bind fun d =>
      d.stage staleMemory (parse (.ofContent (SparePart.rodata.write smallFile 0x8D))).2).any
        (·.result = .error .outsideFile)) := by decide +kernel
  obtain ⟨c, s', first, hParse, hFirst, hResult⟩ := exists_stage_of_check hNear
  obtain ⟨d, t', second, hParse', hSecond, hResult'⟩ := exists_stage_of_check hFar
  rw [hParse] at hFirst
  rw [hParse'] at hSecond
  exact ⟨c, d, s', t', first, second, moves_smallFile 0x8D, by decide +kernel, by decide +kernel,
    by decide +kernel, hParse, hParse', hFirst, hSecond, of_decide_eq_true hResult,
    of_decide_eq_true hResult'⟩

end Container
end GuestPlugin
