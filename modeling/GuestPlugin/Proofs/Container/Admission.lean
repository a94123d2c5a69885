import GuestPlugin.Proofs.Container.Encoding
import GuestPlugin.Proofs.Loader.Course

/-! # Whom a file admits

Admission is decided on what was read of a file, and here on its bytes: two flags, and the numbers in the
array that the header declares. Which of them come first, and how often one occurs, plays no part.
-/

set_option autoImplicit false

namespace GuestPlugin

open Program (Exchange Runs)

theorem Targets.titles_eq_map (count : Nat) (bytes : List UInt8) :
    titles count bytes = (List.range count).map fun i =>
      ⟨(LittleEndian.value ((bytes.drop (8 * i)).take 8)).toUInt64⟩ := by
  induction count generalizing bytes with
  | zero => rfl
  | succ count ih =>
    rw [titles, ih, List.range_succ_eq_map, List.map_cons, List.map_map]
    simp only [Nat.mul_zero, List.drop_zero, List.drop_drop, Function.comp_def, Nat.succ_eq_add_one,
      Nat.mul_add, Nat.mul_one, Nat.add_comm]

/-- What a header says about admission, read off the bytes of a file. -/
structure Header.Rules (m : Manifest) (file : ByteArray) : Prop where
  compatibility : m.compatibility = .emulatorOnly ↔ Container.numberAt file 0x08 1 = 1
  byte_le : Container.numberAt file 0x08 1 ≤ 1
  homebrew : m.allowsHomebrew = false ↔ Container.numberAt file 0x09 1 = 0
  title : m.title = Header.text (Stream.sliceOf file 0x10 32)
  author : m.author = Header.text (Stream.sliceOf file 0x30 32)

theorem Compatibility.ofByte_eq_ok {byte : UInt8} {c : Compatibility} (h : ofByte byte = .ok c) :
    (c = .emulatorOnly ↔ byte.toNat = 1) ∧ byte.toNat ≤ 1 := by
  rw [ofByte] at h
  split at h
  · cases h
    subst byte
    decide
  · split at h
    · cases h
      subst byte
      decide
    · cases h

theorem Header.rules_of_decode {bytes : Bytes size} {header : Header} {file : ByteArray}
    (hBytes : bytes.toList = Stream.sliceOf file 0 size) (h : decode bytes = .ok header) :
    Rules header.manifest file := by
  rw [decode] at h
  cases hCompatibility : Compatibility.ofByte (bytes.get 0x08 (by decide)) with
  | error cause =>
    rw [hCompatibility] at h
    cases h
  | ok compatibility =>
    obtain ⟨hEmulator, hLe⟩ := Compatibility.ofByte_eq_ok hCompatibility
    rw [Container.toNat_get hBytes] at hEmulator hLe
    cases hTier : Tier.ofByte (bytes.get 0x0A (by decide)) with
    | error cause =>
      rw [hCompatibility, hTier] at h
      cases h
    | ok tier =>
      rw [hCompatibility, hTier] at h
      cases h
      have hFlag := Container.toNat_get hBytes (show 0x09 < size by decide)
      constructor
      case compatibility => exact hEmulator
      case byte_le => exact hLe
      case homebrew => rw [← hFlag, bne_eq_false_iff_eq, ← UInt8.toNat_inj]; rfl
      case title => exact congrArg text (Container.toList_slice_eq hBytes _)
      case author => exact congrArg text (Container.toList_slice_eq hBytes _)

namespace Container

/-- The numbers that stand in the declared target array, in their order. -/
def targetNumbers (file : ByteArray) : List Nat :=
  (List.range (numberAt file 0x54 4)).map fun i => numberAt file (numberAt file 0x58 4 + 8 * i) 8

theorem targetNumbers_eq_nil_iff (file : ByteArray) :
    targetNumbers file = [] ↔ numberAt file 0x54 4 = 0 := by
  rw [targetNumbers, List.map_eq_nil_iff, List.range_eq_nil]

theorem titles_declared (file : ByteArray) :
    Targets.titles (numberAt file 0x54 4)
        (Stream.sliceOf file (numberAt file 0x58 4) (8 * numberAt file 0x54 4)) =
      (targetNumbers file).map fun n => ⟨n.toUInt64⟩ := by
  rw [Targets.titles_eq_map, targetNumbers, List.map_map]
  apply List.map_congr_left
  intro i hi
  have hInside : 8 ≤ 8 * numberAt file 0x54 4 - 8 * i := by
    have := List.mem_range.mp hi
    omega
  -- The eight bytes lie in the array, so where the array ends does not matter to them.
  rw [Stream.sliceOf, List.drop_take, List.take_take, Nat.min_eq_left hInside, List.drop_drop]
  rfl

theorem mem_titles_declared (file : ByteArray) (title : TitleId) :
    title ∈ (targetNumbers file).map (fun n => (⟨n.toUInt64⟩ : TitleId)) ↔
      title.value.toNat ∈ targetNumbers file := by
  constructor
  · intro h
    obtain ⟨n, hn, rfl⟩ := List.mem_map.mp h
    obtain ⟨i, _, rfl⟩ := List.mem_map.mp hn
    have hBound : numberAt file (numberAt file 0x58 4 + 8 * i) 8 < 2 ^ 64 := numberAt_lt ..
    rwa [Nat.toUInt64, UInt64.toNat_ofNat', Nat.mod_eq_of_lt hBound]
  · intro h
    exact List.mem_map.mpr ⟨_, h, congrArg TitleId.mk UInt64.ofNat_toNat⟩

/-- The rules of admission on the bytes of a file, in order. -/
def fileAdmission (file : ByteArray) (title : TitleId) (homebrew : Bool) :
    Except AdmissionError Unit :=
  if numberAt file 0x08 1 = 1 then .error .emulatorOnly
  else if homebrew ∧ numberAt file 0x09 1 = 0 then .error .homebrewRefused
  else if numberAt file 0x54 4 = 0 ∨ title.value.toNat ∈ targetNumbers file then .ok ()
  else
    .error (.notTargeted (Header.text (Stream.sliceOf file 0x10 32))
      (Header.text (Stream.sliceOf file 0x30 32)))

theorem Reports.rules {c : Container} {file : ByteArray} {bytes : Bytes Header.size}
    {header : Header} (h : c.Reports file bytes header) : Header.Rules c.manifest file := by
  rw [h.manifest]
  exact Header.rules_of_decode h.front h.decoded

theorem Reports.admits_iff {c : Container} {file : ByteArray} {bytes : Bytes Header.size}
    {header : Header} (h : c.Reports file bytes header) (title : TitleId) :
    c.targets.admits title = true ↔
      numberAt file 0x54 4 = 0 ∨ title.value.toNat ∈ targetNumbers file := by
  have hHeader := isHeader_of_decode h.front h.decoded
  have hTargets := h.targets
  rw [hHeader.targetCount, hHeader.targetOffset, titles_declared] at hTargets
  rw [Targets.admits, hTargets, Targets.toList_ofList, Bool.or_eq_true, List.isEmpty_iff,
    List.map_eq_nil_iff, targetNumbers_eq_nil_iff, List.contains_iff_mem, mem_titles_declared]

/-- What is read of a file lets in a guest exactly if the bytes of the file do. -/
theorem Reports.admission_eq {c : Container} {file : ByteArray} {bytes : Bytes Header.size}
    {header : Header} (h : c.Reports file bytes header) (title : TitleId) (homebrew : Bool) :
    c.admission title homebrew = fileAdmission file title homebrew := by
  have hRules := h.rules
  have hTargets := h.admits_iff title
  simp only [admission, fileAdmission, hRules.compatibility, hTargets, hRules.title, hRules.author,
    Bool.and_eq_true, Bool.not_eq_true', hRules.homebrew]

/-- The same answers to every guest, as far as the bytes of two files can tell: they agree on both flags
and on both texts, and the same numbers stand in their target arrays. -/
structure SameRules (file file' : ByteArray) : Prop where
  compatibility : numberAt file' 0x08 1 = numberAt file 0x08 1
  homebrew : numberAt file' 0x09 1 = numberAt file 0x09 1
  title : Stream.sliceOf file' 0x10 32 = Stream.sliceOf file 0x10 32
  author : Stream.sliceOf file' 0x30 32 = Stream.sliceOf file 0x30 32
  targets : ∀ n, n ∈ targetNumbers file' ↔ n ∈ targetNumbers file

theorem SameRules.fileAdmission_eq {file file' : ByteArray} (h : SameRules file file')
    (title : TitleId) (homebrew : Bool) :
    fileAdmission file' title homebrew = fileAdmission file title homebrew := by
  have hNone : numberAt file' 0x54 4 = 0 ↔ numberAt file 0x54 4 = 0 := by
    simp only [← targetNumbers_eq_nil_iff, List.eq_nil_iff_forall_not_mem, h.targets]
  simp only [fileAdmission, h.compatibility, h.homebrew, h.title, h.author, h.targets, hNone]

theorem fileAdmission_ok_iff {file : ByteArray} (hByte : numberAt file 0x08 1 ≤ 1) (title : TitleId)
    (homebrew : Bool) :
    fileAdmission file title homebrew = .ok () ↔
      numberAt file 0x08 1 = 0 ∧ (homebrew = false ∨ numberAt file 0x09 1 ≠ 0) ∧
        (numberAt file 0x54 4 = 0 ∨ title.value.toNat ∈ targetNumbers file) := by
  have hZero : numberAt file 0x08 1 = 0 ↔ ¬ numberAt file 0x08 1 = 1 := by omega
  rw [fileAdmission, hZero]
  cases homebrew <;> grind

/-- Of a file that is read as a container, the bytes decide who is let in: the first rule of the three that
fails gives the answer. Two such files with the same numbers among their targets, in whatever order and
however often, answer alike if they agree otherwise. -/
theorem admission_of_file {s s' : Stream} {c : Container} (h : parse s = (.ok c, s')) :
    (∀ title homebrew,
      (∀ calls events result, Runs (c.judge title homebrew) calls events result →
        calls = [] ∧ result = some (c.admission title homebrew)) ∧
      (c.admission title homebrew = .ok () ↔
        numberAt s.content 0x08 1 = 0 ∧ (homebrew = false ∨ numberAt s.content 0x09 1 ≠ 0) ∧
          (numberAt s.content 0x54 4 = 0 ∨ title.value.toNat ∈ targetNumbers s.content)) ∧
      c.admission title homebrew = fileAdmission s.content title homebrew) ∧
    c.manifest.title = Header.text (Stream.sliceOf s.content 0x10 32) ∧
    c.manifest.author = Header.text (Stream.sliceOf s.content 0x30 32) ∧
    ∀ t t' d, parse t = (.ok d, t') → SameRules s.content t.content →
      ∀ title homebrew, d.admission title homebrew = c.admission title homebrew := by
  obtain ⟨_, bytes, header, hReports⟩ := reports_of_parse h
  have hRules := hReports.rules
  refine ⟨?_, hRules.title, hRules.author, ?_⟩
  · intro title homebrew
    have hFile := hReports.admission_eq title homebrew
    refine ⟨?_, ?_, hFile⟩
    · intro calls events result hRuns
      obtain ⟨hCalls, _, hResult⟩ := runs_judge hRuns
      exact ⟨hCalls, hResult⟩
    · rw [hFile]
      exact fileAdmission_ok_iff hRules.byte_le title homebrew
  · intro t t' d hParse hSame title homebrew
    obtain ⟨_, bytes', header', hReports'⟩ := reports_of_parse hParse
    rw [hReports.admission_eq, hReports'.admission_eq]
    exact hSame.fileAdmission_eq title homebrew

/-- A file without texts or code that names these titles. -/
def targetFile (targets : List UInt32) : ByteArray :=
  ("3GX$".toUTF8.data.toList ++ LittleEndian.encodeWords
    (2 :: List.replicate 19 0 ++ [targets.length.toUInt32, 0x88] ++ List.replicate 11 0 ++
      targets.flatMap ([·, 0]))).toByteArray

theorem sameRules_targetFile :
    SameRules (Stream.ofContent (targetFile [4, 5])).content
      (Stream.ofContent (targetFile [5, 4, 5])).content := by
  have hFirst : targetNumbers (Stream.ofContent (targetFile [4, 5])).content = [4, 5] := by
    decide +kernel
  have hSecond : targetNumbers (Stream.ofContent (targetFile [5, 4, 5])).content = [5, 4, 5] := by
    decide +kernel
  constructor
  case targets =>
    intro n
    simp only [hFirst, hSecond, List.mem_cons, List.not_mem_nil, or_false]
    omega
  all_goals decide +kernel

theorem admission_of_rearranged_file :
    ∃ c d s' t', parse (.ofContent (targetFile [4, 5])) = (.ok c, s') ∧
      parse (.ofContent (targetFile [5, 4, 5])) = (.ok d, t') ∧
      (∀ title homebrew, d.admission title homebrew = c.admission title homebrew) ∧
      c.admission ⟨5⟩ false = .ok () ∧
      c.admission ⟨5⟩ true = .error .homebrewRefused ∧
      c.admission ⟨6⟩ false = .error (.notTargeted "" "") := by
  have hFirst : Acceptable (targetFile [4, 5]) := by
    constructor <;> decide +kernel
  have hSecond : Acceptable (targetFile [5, 4, 5]) := by
    constructor <;> decide +kernel
  obtain ⟨c, s', hc⟩ := exists_parse_of_acceptable (Stream.isFile_ofContent _) hFirst
  obtain ⟨d, t', hd⟩ := exists_parse_of_acceptable (Stream.isFile_ofContent _) hSecond
  obtain ⟨hRules, _, _, hRearranged⟩ := admission_of_file hc
  refine ⟨c, d, s', t', hc, hd, hRearranged _ _ _ hd sameRules_targetFile, ?_, ?_, ?_⟩
  · rw [(hRules ⟨5⟩ false).2.2]
    decide +kernel
  · rw [(hRules ⟨5⟩ true).2.2]
    decide +kernel
  · rw [(hRules ⟨6⟩ false).2.2]
    decide +kernel

end Container
end GuestPlugin
