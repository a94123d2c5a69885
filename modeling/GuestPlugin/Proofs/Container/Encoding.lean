import GuestPlugin.Proofs.Container.Acceptance
import GuestPlugin.Proofs.Container.Contents
import GuestPlugin.Proofs.Text.Utf8

/-! # Containers as they are written

The layout of a container from the side of its author: fields one behind the other, with nothing in it of
how they are found again. Where the format leaves a choice the author makes one. A file follows a
blueprint when the header stands at its front and the targets and payloads stand where the header says,
no matter what else the file holds and which of these ranges share bytes. Reading such a file gives the
blueprint back.
-/

set_option autoImplicit false

namespace GuestPlugin

namespace Container

/-- A text that a header can hold: it may fill its field, and has no NUL that would end it early. -/
structure IsFieldText (text : String) : Prop where
  fits : text.utf8ByteSize ≤ 32
  noNul : '\x00' ∉ text.toList

/-- What the author of a plugin decides. Counts and sizes can be written with 32 bits. -/
structure Blueprint where
  manifest : Manifest
  title_isFieldText : IsFieldText manifest.title
  author_isFieldText : IsFieldText manifest.author
  targets : List TitleId
  targets_fit : targets.length < 2 ^ 32
  executable : Executable
  payloads : Payloads
  save_fits : payloads.save.size < 2 ^ 32
  load_fits : payloads.load.size < 2 ^ 32

/-- What the format leaves open: the byte that sets each of the four flags, two bytes without a meaning,
and where the target array and the payloads are placed. -/
structure Arrangement where
  setByte : Fin 4 → UInt8
  setByte_ne_zero : ∀ i, setByte i ≠ 0
  reserved : UInt8 × UInt8
  targetOffset : UInt32
  saveOffset : UInt32
  loadOffset : UInt32

def Arrangement.flag (a : Arrangement) (i : Fin 4) (value : Bool) : UInt8 :=
  if value then a.setByte i else 0

theorem Arrangement.flag_ne_zero (a : Arrangement) (i : Fin 4) (value : Bool) :
    (a.flag i value != 0) = value := by
  cases value with
  | false => rfl
  | true => exact bne_iff_ne.mpr (a.setByte_ne_zero i)

def compatibilityByte : Compatibility → UInt8
  | .normal => 0
  | .emulatorOnly => 1

theorem ofByte_compatibilityByte (c : Compatibility) :
    Compatibility.ofByte (compatibilityByte c) = .ok c := by
  cases c <;> rfl

def paddedText (text : String) : List UInt8 :=
  text.toByteArray.data.toList ++ List.replicate (32 - text.utf8ByteSize) 0

theorem IsFieldText.length_paddedText {text : String} (h : IsFieldText text) :
    (paddedText text).length = 32 := by
  have hBytes : text.toByteArray.data.toList.length = text.utf8ByteSize := rfl
  have hFits := h.fits
  rw [paddedText, List.length_append, List.length_replicate, hBytes]
  omega

theorem IsFieldText.text_paddedText {text : String} (h : IsFieldText text) :
    Header.text (paddedText text) = text := Header.text_padded h.noNul _

def encodeTargets (targets : List TitleId) : List UInt8 :=
  targets.flatMap fun title => LittleEndian.encode 8 title.value.toNat

theorem length_encodeTargets (targets : List TitleId) :
    (encodeTargets targets).length = 8 * targets.length := by
  induction targets with
  | nil => rfl
  | cons title rest ih =>
    simp only [encodeTargets, List.flatMap_cons, List.length_append, LittleEndian.length_encode,
      List.length_cons] at ih ⊢
    omega

theorem titles_encodeTargets (targets : List TitleId) :
    Targets.titles targets.length (encodeTargets targets) = targets := by
  induction targets with
  | nil => rfl
  | cons title rest ih =>
    have hCons : encodeTargets (title :: rest) =
        LittleEndian.encode 8 title.value.toNat ++ encodeTargets rest := rfl
    have hWidth : (LittleEndian.encode 8 title.value.toNat).length = 8 :=
      LittleEndian.length_encode 8 _
    rw [List.length_cons, Targets.titles, hCons, List.take_left' hWidth, List.drop_left' hWidth, ih,
      LittleEndian.toUInt64_value_encode]

namespace Blueprint

variable (d : Blueprint) (a : Arrangement)

def leadBytes : List UInt8 := [0x33, 0x47, 0x58, 0x24] ++ LittleEndian.encode 4 2

def infoBytes : List UInt8 :=
  [compatibilityByte d.manifest.compatibility, a.flag ⟨0, by decide⟩ d.manifest.allowsHomebrew,
    d.manifest.tier.index.val.toUInt8, a.flag ⟨1, by decide⟩ d.manifest.managesEvents,
    a.flag ⟨2, by decide⟩ d.manifest.privateMemory, a.flag ⟨3, by decide⟩ d.manifest.swapNotNeeded,
    a.reserved.1, a.reserved.2]

/-- The words behind the texts, in the order in which they are written. -/
def words : List UInt32 :=
  [d.manifest.checksum, d.targets.length.toUInt32, a.targetOffset,
    d.executable.code.offset, d.executable.rodata.offset, d.executable.data.offset,
    d.executable.code.size, d.executable.rodata.size, d.executable.data.size, d.executable.bssSize,
    a.saveOffset, d.payloads.save.size.toUInt32, a.loadOffset, d.payloads.load.size.toUInt32]

def headerBytes : List UInt8 :=
  leadBytes ++ d.infoBytes a ++ paddedText d.manifest.title ++ paddedText d.manifest.author ++
    LittleEndian.encodeWords (d.words a)

/-- A file with a blueprint in it. -/
structure IsIn (file : ByteArray) : Prop where
  header : Stream.sliceOf file 0 0x88 = d.headerBytes a
  targets : Stream.sliceOf file a.targetOffset.toNat (8 * d.targets.length) = encodeTargets d.targets
  save : Stream.sliceOf file a.saveOffset.toNat d.payloads.save.size = d.payloads.save.data.toList
  load : Stream.sliceOf file a.loadOffset.toNat d.payloads.load.size = d.payloads.load.data.toList

/-- The header that says what a blueprint says. -/
def header : Header where
  manifest := d.manifest
  targetCount := d.targets.length.toUInt32
  targetOffset := a.targetOffset
  executable := d.executable
  save := ⟨a.saveOffset, d.payloads.save.size.toUInt32⟩
  load := ⟨a.loadOffset, d.payloads.load.size.toUInt32⟩

theorem length_headerBytes : (d.headerBytes a).length = 0x88 := by
  simp only [headerBytes, leadBytes, infoBytes, words, List.length_append, List.length_cons,
    List.length_nil, LittleEndian.length_encode, LittleEndian.length_encodeWords,
    d.title_isFieldText.length_paddedText, d.author_isFieldText.length_paddedText]

variable {d a} {b : Bytes Header.size}

theorem slice_between (before middle after : List UInt8) {start count : Nat}
    (hStart : before.length = start) (hCount : middle.length = count) :
    ((before ++ (middle ++ after)).drop start).take count = middle := by
  rw [List.drop_left' hStart, List.take_left' hCount]

theorem length_front : (leadBytes ++ d.infoBytes a).length = 0x10 := rfl

theorem length_beforeAuthor :
    (leadBytes ++ d.infoBytes a ++ paddedText d.manifest.title).length = 0x30 := by
  rw [List.length_append, length_front, d.title_isFieldText.length_paddedText]

theorem length_beforeWords :
    (leadBytes ++ d.infoBytes a ++ paddedText d.manifest.title ++
      paddedText d.manifest.author).length = 0x50 := by
  rw [List.length_append, length_beforeAuthor, d.author_isFieldText.length_paddedText]

theorem get_info (hBytes : b.toList = d.headerBytes a) (i : Nat) (hi : i < 8) :
    b.get (8 + i) (by simp only [Header.size]; omega) = (d.infoBytes a)[i] := by
  have hSlice : (b.toList.drop 8).take 8 = d.infoBytes a := by
    simp only [hBytes, headerBytes, List.append_assoc]
    exact slice_between leadBytes (d.infoBytes a) _ rfl rfl
  apply Option.some.inj
  rw [← Bytes.getElem?_toList, ← List.getElem?_drop, ← List.getElem?_take_of_lt hi, hSlice]
  exact List.getElem?_eq_getElem _

theorem text_title (hBytes : b.toList = d.headerBytes a) :
    Header.text (b.slice 0x10 32 (by decide)).toList = d.manifest.title := by
  rw [Bytes.toList_slice, hBytes, headerBytes, List.append_assoc, List.append_assoc,
    slice_between _ _ _ length_front d.title_isFieldText.length_paddedText]
  exact d.title_isFieldText.text_paddedText

theorem text_author (hBytes : b.toList = d.headerBytes a) :
    Header.text (b.slice 0x30 32 (by decide)).toList = d.manifest.author := by
  rw [Bytes.toList_slice, hBytes, headerBytes, List.append_assoc,
    slice_between _ _ _ length_beforeAuthor d.author_isFieldText.length_paddedText]
  exact d.author_isFieldText.text_paddedText

theorem word_words (hBytes : b.toList = d.headerBytes a) (i : Nat) (hi : i < 14) :
    b.word (0x50 + 4 * i) (by simp only [Header.size]; omega) = (d.words a)[i] := by
  rw [Bytes.word, Bytes.toList_slice, hBytes, headerBytes, ← List.drop_drop,
    List.drop_left' length_beforeWords, LittleEndian.slice_encodeWords hi,
    LittleEndian.toUInt32_value_encode]

theorem decode_headerBytes (hBytes : b.toList = d.headerBytes a) :
    Header.decode b = .ok (d.header a) := by
  have hCompatibility : Compatibility.ofByte (b.get 0x08 (by decide)) =
      .ok d.manifest.compatibility := by
    rw [get_info hBytes 0 (by decide)]
    exact ofByte_compatibilityByte _
  have hTier : Tier.ofByte (b.get 0x0A (by decide)) = .ok d.manifest.tier := by
    rw [get_info hBytes 2 (by decide)]
    exact Tier.ofByte_index _
  have hFlag (i : Nat) (hi : i < 8) {k : Fin 4} {value : Bool}
      (h : (d.infoBytes a)[i] = a.flag k value) :
      (b.get (8 + i) (by simp only [Header.size]; omega) != 0) = value := by
    rw [get_info hBytes i hi, h, a.flag_ne_zero]
  have hManifest : d.manifest = ⟨d.manifest.compatibility, d.manifest.allowsHomebrew,
      d.manifest.tier, d.manifest.managesEvents, d.manifest.privateMemory,
      d.manifest.swapNotNeeded, d.manifest.title, d.manifest.author, d.manifest.checksum⟩ := rfl
  have hExecutable : d.executable = ⟨⟨d.executable.code.offset, d.executable.code.size⟩,
      ⟨d.executable.rodata.offset, d.executable.rodata.size⟩,
      ⟨d.executable.data.offset, d.executable.data.size⟩, d.executable.bssSize⟩ := rfl
  have hWord := word_words hBytes
  rw [Header.decode, hCompatibility, hTier]
  refine congrArg Except.ok ?_
  rw [header, Header.mk.injEq, hManifest, hExecutable, Manifest.mk.injEq, Executable.mk.injEq]
  simp only [FileRange.mk.injEq]
  refine ⟨⟨trivial, hFlag 1 (by decide) rfl, trivial, hFlag 3 (by decide) rfl, hFlag 4 (by decide) rfl,
    hFlag 5 (by decide) rfl, text_title hBytes, text_author hBytes, hWord 0 (by decide)⟩,
    hWord 1 (by decide), hWord 2 (by decide), ?_⟩
  exact ⟨⟨⟨hWord 3 (by decide), hWord 6 (by decide)⟩, ⟨hWord 4 (by decide), hWord 7 (by decide)⟩,
    ⟨hWord 5 (by decide), hWord 8 (by decide)⟩, hWord 9 (by decide)⟩,
    ⟨hWord 10 (by decide), hWord 11 (by decide)⟩, hWord 12 (by decide), hWord 13 (by decide)⟩

theorem toNat_targetCount : (d.header a).targetCount.toNat = d.targets.length :=
  UInt32.toNat_ofNat_of_lt d.targets_fit

theorem toNat_saveSize : (d.header a).save.size.toNat = d.payloads.save.size :=
  UInt32.toNat_ofNat_of_lt d.save_fits

theorem toNat_loadSize : (d.header a).load.size.toNat = d.payloads.load.size :=
  UInt32.toNat_ofNat_of_lt d.load_fits

end Blueprint

theorem inside_of_length {file : ByteArray} {offset size : Nat}
    (h : (Stream.sliceOf file offset size).length = size) : Inside file offset size := by
  rw [Stream.length_sliceOf_eq] at h
  unfold Inside
  omega

namespace Blueprint.IsIn

variable {d : Blueprint} {a : Arrangement} {file : ByteArray}

theorem slice_header (h : d.IsIn a file) {offset size : Nat} (hWithin : offset + size ≤ 0x88) :
    Stream.sliceOf file offset size = ((d.headerBytes a).drop offset).take size := by
  rw [← h.header, Stream.sliceOf, Stream.sliceOf, List.drop_zero, List.drop_take, List.take_take,
    Nat.min_eq_left (by omega)]

theorem header_le_size (h : d.IsIn a file) : 0x88 ≤ file.size := by
  have hLength := congrArg List.length h.header
  have hFile : file.data.toList.length = file.size := rfl
  rw [d.length_headerBytes, Stream.sliceOf, List.drop_zero, List.length_take, hFile] at hLength
  omega

theorem isHeader (h : d.IsIn a file) : IsHeader (d.header a) file := by
  let front : Bytes Header.size := Bytes.slice ⟨file, rfl⟩ 0 Header.size (by
    have := h.header_le_size
    rwa [Header.size, Nat.zero_add])
  have hFront : front.toList = Stream.sliceOf file 0 Header.size := Bytes.toList_slice _ _ _ _
  exact isHeader_of_decode hFront (decode_headerBytes (hFront.trans h.header))

theorem acceptable (h : d.IsIn a file) : Acceptable file := by
  have hHeader := h.isHeader
  have hTargets : (Stream.sliceOf file a.targetOffset.toNat (8 * d.targets.length)).length =
      8 * d.targets.length := by
    rw [h.targets, length_encodeTargets]
  have hSave : (Stream.sliceOf file a.saveOffset.toNat d.payloads.save.size).length =
      d.payloads.save.size := by
    rw [h.save]
    rfl
  have hLoad : (Stream.sliceOf file a.loadOffset.toNat d.payloads.load.size).length =
      d.payloads.load.size := by
    rw [h.load]
    rfl
  constructor
  case magic => exact h.slice_header (by decide)
  case version =>
    rw [numberAt, h.slice_header (by decide)]
    rfl
  case size => exact h.header_le_size
  case compatibility => exact hHeader.compatibility
  case tier => exact hHeader.tier
  case targets =>
    rw [← hHeader.targetOffset, ← hHeader.targetCount, toNat_targetCount]
    exact inside_of_length hTargets
  case save =>
    rw [← hHeader.saveOffset, ← hHeader.saveSize, toNat_saveSize]
    exact inside_of_length hSave
  case load =>
    rw [← hHeader.loadOffset, ← hHeader.loadSize, toNat_loadSize]
    exact inside_of_length hLoad

end Blueprint.IsIn

/-- Reading undoes writing: on a stream in which no call fails, a file with a blueprint in it is read as
a container that says what the blueprint says, with the targets in their order, and with the header and
the target array as they stand in the file. -/
theorem parse_blueprint {d : Blueprint} {a : Arrangement} {s : Stream} {file : ByteArray}
    {position : Nat} (hFile : s.IsFile file position) (hIn : d.IsIn a file) :
    ∃ c s', parse s = (.ok c, s') ∧
      c.version = 2 ∧
      c.manifest = d.manifest ∧
      c.targets.toList = d.targets ∧ (c.targets = .every ↔ d.targets = []) ∧
      c.executable = d.executable ∧
      c.payloads = d.payloads ∧
      c.rawHeader.data.toList = Stream.sliceOf file 0 0x88 ++ encodeTargets d.targets ∧
      c.fileLength = file.size := by
  obtain ⟨c, s', hParse⟩ := exists_parse_of_acceptable hFile hIn.acceptable
  obtain ⟨hLength, bytes, header, hReports⟩ := reports_of_parse hParse
  rw [hFile.content] at hReports
  have hDecoded := hReports.decoded
  rw [Blueprint.decode_headerBytes (hReports.front.trans hIn.header)] at hDecoded
  obtain rfl := Except.ok.inj hDecoded
  have hArray : Stream.sliceOf file (d.header a).targetOffset.toNat
      (8 * (d.header a).targetCount.toNat) = encodeTargets d.targets := by
    rw [Blueprint.toNat_targetCount]
    exact hIn.targets
  have hTargets : c.targets = .ofList d.targets := by
    rw [hReports.targets, hArray, Blueprint.toNat_targetCount, titles_encodeTargets]
  have hSave : c.payloads.save = d.payloads.save := by
    apply ByteArray.ext
    apply Array.toList_inj.mp
    rw [hReports.save, Blueprint.toNat_saveSize]
    exact hIn.save
  have hLoad : c.payloads.load = d.payloads.load := by
    apply ByteArray.ext
    apply Array.toList_inj.mp
    rw [hReports.load, Blueprint.toNat_loadSize]
    exact hIn.load
  refine ⟨c, s', hParse, hReports.version, hReports.manifest, ?_, ?_, hReports.executable, ?_, ?_,
    hLength.trans hFile.length⟩
  · rw [hTargets, Targets.toList_ofList]
  · rw [hTargets]
    cases d.targets <;> simp [Targets.ofList]
  · rcases hPayloads : c.payloads with ⟨save, load⟩
    rw [hPayloads] at hSave hLoad
    exact congrArg₂ Payloads.mk hSave hLoad
  · rw [hReports.rawHeader, hArray]

/-- A title that fills its field with characters of every width, no author, two targets, a save payload
that shares its bytes with the first of them, and an empty load payload. -/
def crowded : Blueprint where
  manifest := ⟨.emulatorOnly, true, .reserved, false, true, true, "😀😀漢字漢字üüabcdefgh", "", 0xFFFFFFFF⟩
  title_isFieldText := ⟨by decide +kernel, by decide +kernel⟩
  author_isFieldText := ⟨by decide +kernel, by decide +kernel⟩
  targets := [⟨0x0004000000000000⟩, ⟨5⟩]
  targets_fit := by decide
  executable := ⟨⟨0x98, 1⟩, ⟨0xFFFFFFFF, 2⟩, ⟨3, 4⟩, 0xFFFFFFFF⟩
  payloads := ⟨[0, 0, 0, 0, 0, 0, 4, 0].toByteArray, .empty⟩
  save_fits := by decide
  load_fits := by decide

def crowdedArrangement : Arrangement where
  setByte := [0x01, 0x80, 0xFF, 0x02].get
  setByte_ne_zero := by decide
  reserved := (7, 9)
  targetOffset := 0x88
  saveOffset := 0x88
  loadOffset := 0xFFFFFFFF

def crowdedFile : ByteArray :=
  (crowded.headerBytes crowdedArrangement ++ encodeTargets crowded.targets ++ [0x1E]).toByteArray

theorem isIn_crowdedFile : crowded.IsIn crowdedArrangement crowdedFile := by
  constructor <;> decide +kernel

theorem parse_crowdedFile :
    (Stream.ofContent crowdedFile).IsFile crowdedFile 0 ∧
    crowded.IsIn crowdedArrangement crowdedFile ∧
    ∃ c s', parse (.ofContent crowdedFile) = (.ok c, s') ∧ c.manifest = crowded.manifest ∧
      c.targets.toList = [⟨0x0004000000000000⟩, ⟨5⟩] ∧ c.payloads = crowded.payloads := by
  have hFile := Stream.isFile_ofContent crowdedFile
  obtain ⟨c, s', hParse, _, hManifest, hTargets, _, _, hPayloads, _⟩ :=
    parse_blueprint hFile isIn_crowdedFile
  exact ⟨hFile, isIn_crowdedFile, c, s', hParse, hManifest, hTargets, hPayloads⟩

end Container
end GuestPlugin
