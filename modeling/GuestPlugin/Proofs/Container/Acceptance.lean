import GuestPlugin.Proofs.Container.StreamVerdict

/-! # Which files are containers

On a stream in which no call fails, reading decides by the bytes of the file alone. The list of checks
is written down here with numbers that do not wrap, and the first that applies is the answer; fields are
looked up in the file itself, not in what was read of it.
-/

set_option autoImplicit false

namespace GuestPlugin.Container

/-- Whether a range lies in a file. An empty one does, wherever it is said to begin. -/
def Inside (file : ByteArray) (offset size : Nat) : Prop := size = 0 ∨ offset + size ≤ file.size

instance (file : ByteArray) (offset size : Nat) : Decidable (Inside file offset size) :=
  inferInstanceAs (Decidable (_ ∨ _))

/-- The checks of a file that is known to have a whole header. -/
def headerVerdict (file : ByteArray) : Except FormatError Unit :=
  if 1 < numberAt file 0x08 1 then .error (.invalidField "compatibility")
  else if 3 < numberAt file 0x0A 1 then .error (.invalidField "memory region size")
  else if ¬ Inside file (numberAt file 0x58 4) (8 * numberAt file 0x54 4) then .error .unreadable
  else if ¬ Inside file (numberAt file 0x78 4) (numberAt file 0x7C 4) then .error .invalidPayload
  else if ¬ Inside file (numberAt file 0x80 4) (numberAt file 0x84 4) then .error .invalidPayload
  else .ok ()

/-- The checks of a file in order. -/
def verdict (file : ByteArray) : Except FormatError Unit :=
  let version := numberAt file 4 4
  if file.size < 8 then .error .unreadable
  else if Stream.sliceOf file 0 4 ≠ "3GX$".toUTF8.data.toList then .error .badMagic
  else if version < 2 then .error (.pluginTooOld version.toUInt32)
  else if 2 < version then .error (.loaderTooOld version.toUInt32)
  else if file.size < 0x88 then .error .unreadable
  else headerVerdict file

/-- A file that meets every condition. -/
structure Acceptable (file : ByteArray) : Prop where
  magic : Stream.sliceOf file 0 4 = "3GX$".toUTF8.data.toList
  version : numberAt file 4 4 = 2
  size : 0x88 ≤ file.size
  compatibility : numberAt file 0x08 1 ≤ 1
  tier : numberAt file 0x0A 1 ≤ 3
  targets : Inside file (numberAt file 0x58 4) (8 * numberAt file 0x54 4)
  save : Inside file (numberAt file 0x78 4) (numberAt file 0x7C 4)
  load : Inside file (numberAt file 0x80 4) (numberAt file 0x84 4)

theorem check_ok_iff {p : Prop} [Decidable p] {cause : FormatError} {rest : Except FormatError Unit} :
    (if p then .error cause else rest) = .ok () ↔ ¬ p ∧ rest = .ok () := by
  by_cases h : p
  · rw [if_pos h]
    exact ⟨nofun, fun hBoth => absurd h hBoth.1⟩
  · rw [if_neg h]
    exact ⟨fun hRest => ⟨h, hRest⟩, fun hBoth => hBoth.2⟩

theorem verdict_ok_iff (file : ByteArray) : verdict file = .ok () ↔ Acceptable file := by
  simp only [verdict, headerVerdict, check_ok_iff, Classical.not_not, and_true]
  constructor
  · rintro ⟨_, hMagic, hOld, hNew, hSize, hCompatibility, hTier, hTargets, hSave, hLoad⟩
    exact ⟨hMagic, by omega, by omega, by omega, by omega, hTargets, hSave, hLoad⟩
  · rintro ⟨hMagic, hVersion, hSize, hCompatibility, hTier, hTargets, hSave, hLoad⟩
    exact ⟨by omega, hMagic, by omega, by omega, by omega, by omega, by omega, hTargets, hSave,
      hLoad⟩

theorem refuses_iff_of_isFile {s : Stream} {file : ByteArray} {position : Nat}
    (hFile : s.IsFile file position) (turn offset size : Nat) :
    s.Refuses turn offset size ↔ ¬ Inside file offset size := by
  simp only [Stream.Refuses, Stream.Denies, Inside, hFile.seeks, hFile.reads, hFile.length,
    hFile.content, Bool.false_eq_true, false_or, or_self, not_or, Nat.not_le, ne_eq]

theorem streamVerdict_of_isFile {s : Stream} {file : ByteArray} {position : Nat}
    (hFile : s.IsFile file position) : streamVerdict s = verdict file := by
  simp only [streamVerdict, frontVerdict, rangeVerdict, refuses_iff_of_isFile hFile, hFile.seeks,
    hFile.reads, hFile.content, Bool.false_eq_true, false_or, or_self, if_false]
  rfl

theorem parse_map_eq_verdict {s : Stream} {file : ByteArray} {position : Nat}
    (hFile : s.IsFile file position) : (parse s).1.map (fun _ => ()) = verdict file := by
  rw [parse_map_eq_streamVerdict, streamVerdict_of_isFile hFile]

theorem exists_parse_of_acceptable {s : Stream} {file : ByteArray} {position : Nat}
    (hFile : s.IsFile file position) (h : Acceptable file) :
    ∃ c s', parse s = (.ok c, s') := by
  have hVerdict := parse_map_eq_verdict hFile
  rw [(verdict_ok_iff file).mpr h] at hVerdict
  rcases hParse : parse s with ⟨cause | c, s'⟩
  · rw [hParse] at hVerdict
    cases hVerdict
  · exact ⟨c, s', rfl⟩

/-- A file with one word of code, and nothing else that a container may have. -/
def smallFile : ByteArray :=
  ("3GX$".toUTF8.data.toList ++ LittleEndian.encodeWords
    (2 :: List.replicate 21 0 ++ [0x88, 0, 0, 4, 0, 0, 0, 0, 0, 0, 0, 0xE12FFF1E])).toByteArray

theorem acceptable_smallFile : Acceptable smallFile := by
  constructor <;> decide +kernel

/-- On a stream in which no call fails, reading a container comes to what the checks of the file say in
their order, and it succeeds exactly for the files that meet all conditions. -/
theorem parse_faultless {s : Stream} {file : ByteArray} {position : Nat}
    (hFile : s.IsFile file position) :
    (parse s).1.map (fun _ => ()) = verdict file ∧
      ((∃ c, (parse s).1 = .ok c) ↔ Acceptable file) := by
  have hVerdict := parse_map_eq_verdict hFile
  refine ⟨hVerdict, ?_⟩
  rw [← verdict_ok_iff, ← hVerdict]
  rcases (parse s).1 with cause | c
  · constructor
    · rintro ⟨c, hOk⟩
      cases hOk
    · intro hOk
      cases hOk
  · exact ⟨fun _ => rfl, fun _ => ⟨c, rfl⟩⟩

theorem parse_smallFile :
    (Stream.ofContent smallFile).IsFile smallFile 0 ∧
      ∃ c, (parse (.ofContent smallFile)).1 = .ok c := by
  have hFile := Stream.isFile_ofContent smallFile
  exact ⟨hFile, (parse_faultless hFile).2.mpr acceptable_smallFile⟩

end GuestPlugin.Container
