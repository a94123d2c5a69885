import GuestPlugin.Proofs.Bytes.LittleEndian
import GuestPlugin.Proofs.Container.Reading
import GuestPlugin.Proofs.Storage.Faults

/-! # What reading comes to on any stream

An answer depends on the bytes of the file, on the length that is reported and on which calls fail, and
on each of these only where everything before was passed. The checks are written down here in their order.
Fields are looked up in the file itself, not in what was read of it, and a call is known by its number.
Seeking the end and the front takes two seeks and the header two reads; the ranges come after these.
-/

set_option autoImplicit false

namespace GuestPlugin

theorem Compatibility.ofByte_cases (byte : UInt8) :
    (byte.toNat ≤ 1 ∧ ∃ c, ofByte byte = .ok c) ∨
      (1 < byte.toNat ∧ ofByte byte = .error (.invalidField "compatibility")) := by
  rcases Nat.lt_or_ge 1 byte.toNat with hLarge | hSmall
  · have hNe (k : UInt8) (hk : k.toNat ≤ 1) : byte ≠ k := by
      rintro rfl
      omega
    exact .inr ⟨hLarge, by rw [ofByte, if_neg (hNe 0 (by decide)), if_neg (hNe 1 (by decide))]⟩
  · have hCases : byte.toNat = (0 : UInt8).toNat ∨ byte.toNat = (1 : UInt8).toNat := by
      change byte.toNat = 0 ∨ byte.toNat = 1
      omega
    rcases hCases with hZero | hOne
    · obtain rfl := UInt8.toNat_inj.mp hZero
      exact .inl ⟨hSmall, .normal, rfl⟩
    · obtain rfl := UInt8.toNat_inj.mp hOne
      exact .inl ⟨hSmall, .emulatorOnly, rfl⟩

theorem Tier.exists_index_eq {byte : UInt8} (h : byte.toNat ≤ 3) :
    ∃ t : Tier, byte = t.index.val.toUInt8 := by
  have hCases : byte.toNat = 0 ∨ byte.toNat = 1 ∨ byte.toNat = 2 ∨ byte.toNat = 3 := by omega
  simp only [← UInt8.toNat_inj]
  rcases hCases with hByte | hByte | hByte | hByte
  · exact ⟨.default, hByte⟩
  · exact ⟨.small, hByte⟩
  · exact ⟨.large, hByte⟩
  · exact ⟨.reserved, hByte⟩

theorem Tier.ofByte_cases (byte : UInt8) :
    (byte.toNat ≤ 3 ∧ ∃ t, ofByte byte = .ok t) ∨
      (3 < byte.toNat ∧ ofByte byte = .error (.invalidField "memory region size")) := by
  rcases Nat.lt_or_ge 3 byte.toNat with hLarge | hSmall
  · have hNe (k : UInt8) (hk : k.toNat ≤ 3) : byte ≠ k := by
      rintro rfl
      omega
    refine .inr ⟨hLarge, ?_⟩
    rw [ofByte, if_neg (hNe 0 (by decide)), if_neg (hNe 1 (by decide)), if_neg (hNe 2 (by decide)),
      if_neg (hNe 3 (by decide))]
  · obtain ⟨t, rfl⟩ := exists_index_eq hSmall
    exact .inl ⟨hSmall, t, ofByte_index t⟩

namespace Container

open Reading GuestPlugin.Stream

def numberAt (file : ByteArray) (offset width : Nat) : Nat :=
  LittleEndian.value (Stream.sliceOf file offset width)

section Fields

variable {n : Nat} {b : Bytes n} {file : ByteArray}

theorem toList_slice_eq (hBytes : b.toList = Stream.sliceOf file 0 n) {offset width : Nat}
    (h : offset + width ≤ n) :
    (b.slice offset width h).toList = Stream.sliceOf file offset width := by
  rw [Bytes.toList_slice, hBytes, Stream.sliceOf, List.drop_zero, List.drop_take, List.take_take,
    Nat.min_eq_left (by omega), Stream.sliceOf]

theorem word_eq (hBytes : b.toList = Stream.sliceOf file 0 n) {offset : Nat}
    (h : offset + 4 ≤ n) : b.word offset h = (numberAt file offset 4).toUInt32 := by
  rw [Bytes.word, toList_slice_eq hBytes, numberAt]

theorem numberAt_lt (file : ByteArray) (offset width : Nat) :
    numberAt file offset width < 256 ^ width := by
  have hLength : (Stream.sliceOf file offset width).length ≤ width := List.length_take_le ..
  exact Nat.lt_of_lt_of_le (LittleEndian.value_lt _) (Nat.pow_le_pow_right (by decide) hLength)

theorem toNat_word (hBytes : b.toList = Stream.sliceOf file 0 n) {offset : Nat}
    (h : offset + 4 ≤ n) : (b.word offset h).toNat = numberAt file offset 4 := by
  rw [word_eq hBytes h, Nat.toUInt32, UInt32.toNat_ofNat']
  exact Nat.mod_eq_of_lt (numberAt_lt file offset 4)

theorem toNat_get (hBytes : b.toList = Stream.sliceOf file 0 n) {offset : Nat} (h : offset < n) :
    (b.get offset h).toNat = numberAt file offset 1 := by
  have hList : offset < b.toList.length := by rwa [Bytes.length_toList]
  have hGet : b.get offset h = b.toList[offset] := rfl
  have hOne : Stream.sliceOf file offset 1 = [b.toList[offset]] := by
    rw [← toList_slice_eq hBytes (show offset + 1 ≤ n by omega), Bytes.toList_slice,
      List.drop_eq_getElem_cons hList, List.take_succ_cons, List.take_zero]
  rw [numberAt, hOne, hGet, LittleEndian.value, LittleEndian.value]
  omega

end Fields

/-- The checks of magic and version, and then the rest. -/
def leadVerdict (file : ByteArray) (rest : Except FormatError Unit) : Except FormatError Unit :=
  let version := numberAt file 4 4
  if sliceOf file 0 4 ≠ "3GX$".toUTF8.data.toList then .error .badMagic
  else if version < 2 then .error (.pluginTooOld version.toUInt32)
  else if 2 < version then .error (.loaderTooOld version.toUInt32)
  else rest

/-- The checks of the bytes in which not every value is allowed, and then the rest. -/
def fieldVerdict (file : ByteArray) (rest : Except FormatError Unit) : Except FormatError Unit :=
  if 1 < numberAt file 0x08 1 then .error (.invalidField "compatibility")
  else if 3 < numberAt file 0x0A 1 then .error (.invalidField "memory region size")
  else rest

/-- Whether the whole header can be read, and then the rest. -/
def frontVerdict (s : Stream) (rest : Except FormatError Unit) : Except FormatError Unit :=
  if s.seekFails (s.seeks + 1) ∨ s.seekFails (s.seeks + 2) then .error .unreadable
  else if s.readFails (s.reads + 1) ∨ s.content.size < 8 then .error .unreadable
  else leadVerdict s.content <|
    if s.readFails (s.reads + 2) ∨ s.content.size < 0x88 then .error .unreadable else rest

/-- The number of the seek and of the read of the save payload. -/
def saveTurn (file : ByteArray) : Nat := 3 + turnsFor (8 * numberAt file 0x54 4)

def loadTurn (file : ByteArray) : Nat := saveTurn file + turnsFor (numberAt file 0x7C 4)

theorem saveTurn_eq (file : ByteArray) :
    2 + turnsFor (8 * numberAt file 0x54 4) + 1 = saveTurn file := by
  rw [saveTurn]
  omega

theorem loadTurn_eq (file : ByteArray) :
    2 + turnsFor (8 * numberAt file 0x54 4) + turnsFor (numberAt file 0x7C 4) + 1 =
      loadTurn file := by
  rw [loadTurn, ← saveTurn_eq]
  omega

/-- The checks of the ranges that a header declares. -/
def rangeVerdict (s : Stream) : Except FormatError Unit :=
  let file := s.content
  if s.Refuses 3 (numberAt file 0x58 4) (8 * numberAt file 0x54 4) then .error .unreadable
  else if s.Refuses (saveTurn file) (numberAt file 0x78 4) (numberAt file 0x7C 4) then
    .error .invalidPayload
  else if s.Refuses (loadTurn file) (numberAt file 0x80 4) (numberAt file 0x84 4) then
    .error .invalidPayload
  else .ok ()

def streamVerdict (s : Stream) : Except FormatError Unit :=
  frontVerdict s (fieldVerdict s.content (rangeVerdict s))

theorem leadVerdict_eq_bind {file : ByteArray} {lead : Bytes Header.leadSize}
    (hLead : lead.toList = sliceOf file 0 Header.leadSize) (rest : Except FormatError Unit) :
    leadVerdict file rest = (Header.checkLead lead).bind fun _ => rest := by
  have hMagic := toList_slice_eq hLead (show 0 + 4 ≤ Header.leadSize by decide)
  have hWord := word_eq hLead (show 4 + 4 ≤ Header.leadSize by decide)
  have hVersion := toNat_word hLead (show 4 + 4 ≤ Header.leadSize by decide)
  have hOld : Header.oldestVersion.toNat = 2 := rfl
  have hNew : Header.newestVersion.toNat = 2 := rfl
  simp only [leadVerdict, Header.checkLead, UInt32.lt_iff_toNat_lt, hMagic, hVersion, hOld, hNew]
  rw [hWord, Header.magic]
  split
  · rfl
  split
  · rfl
  split <;> rfl

/-- A header read from the front of a file: what its fields allow, and where its ranges lie. -/
structure IsHeader (header : Header) (file : ByteArray) : Prop where
  compatibility : numberAt file 0x08 1 ≤ 1
  tier : numberAt file 0x0A 1 ≤ 3
  targetCount : header.targetCount.toNat = numberAt file 0x54 4
  targetOffset : header.targetOffset.toNat = numberAt file 0x58 4
  saveOffset : header.save.offset.toNat = numberAt file 0x78 4
  saveSize : header.save.size.toNat = numberAt file 0x7C 4
  loadOffset : header.load.offset.toNat = numberAt file 0x80 4
  loadSize : header.load.size.toNat = numberAt file 0x84 4

theorem IsHeader.fieldVerdict_eq {header : Header} {file : ByteArray} (h : IsHeader header file)
    (rest : Except FormatError Unit) : fieldVerdict file rest = rest := by
  rw [fieldVerdict, if_neg (Nat.not_lt.mpr h.compatibility), if_neg (Nat.not_lt.mpr h.tier)]

theorem decode_cases {file : ByteArray} {b : Bytes Header.size}
    (hBytes : b.toList = sliceOf file 0 Header.size) :
    (∃ cause, Header.decode b = .error cause ∧ ∀ rest, fieldVerdict file rest = .error cause) ∨
      ∃ header, Header.decode b = .ok header ∧ IsHeader header file := by
  have hFirst := toNat_get hBytes (show 0x08 < Header.size by decide)
  have hSecond := toNat_get hBytes (show 0x0A < Header.size by decide)
  rcases Compatibility.ofByte_cases (b.get 0x08 (by decide)) with
    ⟨hCompatibility, c, hC⟩ | ⟨hCompatibility, hC⟩
  · rcases Tier.ofByte_cases (b.get 0x0A (by decide)) with ⟨hTier, t, hT⟩ | ⟨hTier, hT⟩
    · refine .inr ⟨_, by rw [Header.decode, hC, hT]; rfl, ?_⟩
      exact {
        compatibility := hFirst ▸ hCompatibility
        tier := hSecond ▸ hTier
        targetCount := toNat_word hBytes _
        targetOffset := toNat_word hBytes _
        saveOffset := toNat_word hBytes _
        saveSize := toNat_word hBytes _
        loadOffset := toNat_word hBytes _
        loadSize := toNat_word hBytes _ }
    · refine .inl ⟨_, by rw [Header.decode, hC, hT]; rfl, fun rest => ?_⟩
      rw [fieldVerdict, if_neg (by omega), if_pos (by omega)]
  · refine .inl ⟨_, by rw [Header.decode, hC]; rfl, fun rest => ?_⟩
    rw [fieldVerdict, if_pos (by omega)]

theorem isHeader_of_decode {file : ByteArray} {b : Bytes Header.size} {header : Header}
    (hBytes : b.toList = sliceOf file 0 Header.size) (h : Header.decode b = .ok header) :
    IsHeader header file := by
  rcases decode_cases hBytes with ⟨cause, hError, _⟩ | ⟨header', hOk, hHeader⟩
  · rw [h] at hError
    cases hError
  · rw [h] at hOk
    cases hOk
    exact hHeader

theorem readHeader_cases {s atEnd : Stream} (hAtEnd : s.After 1 0 atEnd)
    (hSeekEnd : ¬ s.seekFails (s.seeks + 1)) :
    (∃ cause s', outcome readHeader atEnd = (.error cause, s') ∧
        ∀ rest, frontVerdict s rest = .error cause) ∨
      ∃ version bytes s', outcome readHeader atEnd = (.ok (version, bytes), s') ∧ s.After 2 2 s' ∧
        bytes.toList = sliceOf s.content 0 Header.size ∧ ∀ rest, frontVerdict s rest = rest := by
  rw [readHeader]
  rcases hAtEnd.seek_cases 0 with ⟨hFails, s', hSeek⟩ | ⟨hMoves, front, hSeek, hFront, hPlace⟩
  · exact .inl ⟨_, _, outcome_attempt_bind_none hSeek, fun _ => if_pos (.inr hFails)⟩
  have hSeeks : ¬ (s.seekFails (s.seeks + 1) ∨ s.seekFails (s.seeks + 2)) :=
    not_or.mpr ⟨hSeekEnd, hMoves⟩
  rw [outcome_attempt_bind_some hSeek]
  rcases hFront.read_cases Header.leadSize with
    ⟨hFails, s', hRead⟩ | ⟨hWorks, lead, middle, hRead, hLead, hMiddle, hPosition⟩
  · simp only [hPlace, Nat.zero_add] at hFails
    refine .inl ⟨_, _, outcome_attempt_bind_none hRead, fun rest => ?_⟩
    rw [frontVerdict, if_neg hSeeks, if_pos hFails]
  simp only [hPlace, Nat.zero_add] at hWorks hLead hPosition
  have hVerdict (rest : Except FormatError Unit) : frontVerdict s rest =
      (Header.checkLead lead).bind fun _ =>
        if s.readFails (s.reads + 2) ∨ s.content.size < 0x88 then .error .unreadable else rest := by
    rw [frontVerdict, if_neg hSeeks, if_neg hWorks, leadVerdict_eq_bind hLead]
  rw [outcome_attempt_bind_some hRead]
  rcases hCheck : Header.checkLead lead with cause | version
  · rw [hCheck] at hVerdict
    exact .inl ⟨_, _, outcome_lift_bind_error rfl, hVerdict⟩
  rw [hCheck] at hVerdict
  simp only [hVerdict]
  rw [outcome_lift_bind_ok rfl]
  rcases hMiddle.read_cases (Header.size - Header.leadSize) with
    ⟨hFails, s', hReadRest⟩ | ⟨hWorks, rest, s', hReadRest, hRest, hAfter, _⟩
  · rw [hPosition] at hFails
    exact .inl ⟨_, _, outcome_attempt_bind_none hReadRest, fun _ => if_pos hFails⟩
  rw [hPosition] at hWorks hRest
  rw [outcome_attempt_bind_some hReadRest]
  refine .inr ⟨version, lead.append rest, s', rfl, hAfter, ?_, fun _ => if_neg hWorks⟩
  rw [Bytes.toList_append, hLead, hRest]
  exact List.take_add.symm

/-- Reading a range is one check. -/
theorem map_outcome_readRange {α : Type} {s t : Stream} {turns : Nat} (h : s.After turns turns t)
    (offset size : Nat) (cause : FormatError) {next : ByteArray → Reading α}
    {rest : Except FormatError Unit}
    (hNext : ∀ bytes t', s.After (turns + turnsFor size) (turns + turnsFor size) t' →
      (outcome (next bytes) t').1.map (fun _ => ()) = rest) :
    (outcome (attempt (·.readRange offset size) cause >>= next) t).1.map (fun _ => ()) =
      if s.Refuses (turns + 1) offset size then .error cause else rest := by
  rcases h.readRange_cases offset size with
    ⟨hRefused, t', hNone⟩ | ⟨hGranted, bytes, t', hSome, hAfter⟩
  · rw [outcome_attempt_bind_none hNone, if_pos hRefused]
    rfl
  · rw [outcome_attempt_bind_some hSome, if_neg hGranted]
    exact hNext bytes t' hAfter

theorem parse_map_eq_streamVerdict (s : Stream) :
    (parse s).1.map (fun _ => ()) = streamVerdict s := by
  rw [parse, read, streamVerdict]
  rcases (After.refl s).seekEnd_cases with
    ⟨hFails, s', hSeek⟩ | ⟨hSeekEnd, atEnd, hSeek, hAtEnd⟩
  · rw [outcome_attempt_bind_none hSeek, frontVerdict, if_pos (.inl hFails)]
    rfl
  rw [outcome_attempt_bind_some hSeek, outcome_bind]
  rcases readHeader_cases hAtEnd hSeekEnd with
    ⟨cause, s', hError, hCause⟩ | ⟨version, bytes, s₂, hOk, h₂, hBytes, hFront⟩
  · rw [hError, hCause]
    rfl
  rw [hOk, hFront]
  dsimp only
  rcases decode_cases hBytes with ⟨cause, hDecode, hFields⟩ | ⟨header, hDecode, hHeader⟩
  · rw [outcome_lift_bind_error hDecode, hFields]
    rfl
  rw [outcome_lift_bind_ok hDecode, hHeader.targetCount, hHeader.targetOffset,
    hHeader.saveOffset, hHeader.saveSize, hHeader.loadOffset, hHeader.loadSize,
    hHeader.fieldVerdict_eq, rangeVerdict]
  -- The ranges are read in this order, and after the first that fails no other is looked at.
  refine map_outcome_readRange h₂ _ _ _ fun array s₃ h₃ => ?_
  rw [← saveTurn_eq]
  refine map_outcome_readRange h₃ _ _ _ fun save s₄ h₄ => ?_
  rw [← loadTurn_eq]
  exact map_outcome_readRange h₄ _ _ _ fun load s₅ _ => rfl

theorem parse_eq_error_iff (s : Stream) (cause : FormatError) :
    (parse s).1 = .error cause ↔ streamVerdict s = .error cause := by
  rw [← parse_map_eq_streamVerdict]
  rcases (parse s).1 with cause' | c <;> simp [Except.map]

/-- A payload that is not empty and ends past the length that the stream reports. -/
def PayloadBeyond (s : Stream) : Prop :=
  let file := s.content
  (numberAt file 0x7C 4 ≠ 0 ∧ s.length < numberAt file 0x78 4 + numberAt file 0x7C 4) ∨
    (numberAt file 0x84 4 ≠ 0 ∧ s.length < numberAt file 0x80 4 + numberAt file 0x84 4)

/-- A payload that is not empty and whose seek or read fails or comes short. -/
def PayloadDenied (s : Stream) : Prop :=
  let file := s.content
  (numberAt file 0x7C 4 ≠ 0 ∧
      s.Denies (saveTurn file) (numberAt file 0x78 4) (numberAt file 0x7C 4)) ∨
    (numberAt file 0x84 4 ≠ 0 ∧
      s.Denies (loadTurn file) (numberAt file 0x80 4) (numberAt file 0x84 4))

section InvalidPayload

variable {s : Stream} {file : ByteArray} {rest : Except FormatError Unit}

theorem of_frontVerdict_eq (h : frontVerdict s rest = .error .invalidPayload) :
    rest = .error .invalidPayload := by
  grind [frontVerdict, leadVerdict]

theorem of_fieldVerdict_eq (h : fieldVerdict file rest = .error .invalidPayload) :
    rest = .error .invalidPayload := by
  grind [fieldVerdict]

theorem payload_of_rangeVerdict_eq (h : rangeVerdict s = .error .invalidPayload) :
    PayloadBeyond s ∨ PayloadDenied s := by
  have hRefused : s.Refuses (saveTurn s.content) (numberAt s.content 0x78 4)
        (numberAt s.content 0x7C 4) ∨
      s.Refuses (loadTurn s.content) (numberAt s.content 0x80 4) (numberAt s.content 0x84 4) := by
    grind [rangeVerdict]
  rcases hRefused with ⟨hSome, hBeyond | hDenied⟩ | ⟨hSome, hBeyond | hDenied⟩
  · exact .inl (.inl ⟨hSome, hBeyond⟩)
  · exact .inr (.inl ⟨hSome, hDenied⟩)
  · exact .inl (.inr ⟨hSome, hBeyond⟩)
  · exact .inr (.inr ⟨hSome, hDenied⟩)

end InvalidPayload

/-- What comes of reading is known beforehand: it is decided by the first check that fails. An invalid
payload is one beyond the reported length or one that cannot be read, and no other failing call is
reported as that. -/
theorem parse_verdict (s : Stream) :
    (parse s).1.map (fun _ => ()) = streamVerdict s ∧
      ((parse s).1 = .error .invalidPayload → PayloadBeyond s ∨ PayloadDenied s) := by
  refine ⟨parse_map_eq_streamVerdict s, ?_⟩
  intro hInvalid
  have hRest := of_frontVerdict_eq ((parse_eq_error_iff s _).mp hInvalid)
  exact payload_of_rangeVerdict_eq (of_fieldVerdict_eq hRest)

/-- A file with a payload of one word, which is its code as well. -/
def payloadFile : ByteArray :=
  ("3GX$".toUTF8.data.toList ++ LittleEndian.encodeWords
    (2 :: List.replicate 21 0 ++ [0x88, 0, 0, 4, 0, 0, 0, 0, 0, 0x88, 4, 0xE12FFF1E])).toByteArray

/-- A stream of it on which only the seek to the payload fails. -/
def interrupted : Stream := { Stream.ofContent payloadFile with seekFails := (· == 3) }

set_option maxRecDepth 100000 in
/-- The payload lies in the file and is called invalid nevertheless, since the seek to it fails. -/
theorem invalidPayload_of_failing_seek :
    (parse interrupted).1 = .error .invalidPayload ∧ ¬ PayloadBeyond interrupted ∧
      interrupted.seekFails 3 := by
  refine ⟨?_, ?_, rfl⟩
  · rw [parse_eq_error_iff]
    rfl
  · unfold PayloadBeyond
    decide +kernel

end Container
end GuestPlugin
