import GuestPlugin.Proofs.Bytes.Words
import GuestPlugin.Proofs.Region.ControlBlock

/-! # Control blocks written and read back

A control block that was written is read back as it was, and a memory that is read as one gets its own
bytes back. There is one exception: every value but zero says that the plugin is the default one, and only
one of them is ever written. What is read at all shows in the length and in the first word.
-/

set_option autoImplicit false

namespace GuestPlugin.ControlBlock

variable {n : Nat}

theorem length_words (b : ControlBlock) : b.words.length = 40 := by
  simp [words]

theorem getElem_words_config (b : ControlBlock) (i : Nat) (hi : i < 32)
    (hWords : 8 + i < b.words.length) : b.words[8 + i] = b.config[i] := by
  simp only [words]
  rw [List.getElem_append_right (by simp)]
  simp

theorem decode_encode {b : ControlBlock} {bytes : Bytes size} (h : bytes.toList = b.encode) :
    decode bytes = b := by
  have hInside {i : Nat} (hi : i < 40) : i < b.words.length := by rwa [length_words]
  have hWord (i : Nat) (hi : i < b.words.length) :
      bytes.word (4 * i) (by rw [length_words] at hi; simp only [size]; omega) = b.words[i] :=
    Bytes.word_encodeWords h _ _
  have hDefault : (bytes.word 0x14 (by decide) != 0) = b.isDefault := by
    have hFlag : bytes.word 0x14 (by decide) = if b.isDefault then 1 else 0 :=
      hWord 5 (hInside (by decide))
    rw [hFlag]
    cases b.isDefault <;> rfl
  have hConfig : (Vector.ofFn fun i : Fin 32 => bytes.word (0x20 + 4 * i.val)
      (by have := i.isLt; simp only [size]; omega)) = b.config := by
    apply Vector.ext
    intro i hi
    have hNext : 0x20 + 4 * i = 4 * (8 + i) := by omega
    simp only [Vector.getElem_ofFn, hNext]
    rw [hWord (8 + i) (hInside (by omega)), getElem_words_config b i hi]
  have hFields : b = ⟨b.magic, b.version, b.heapAddress, b.heapSize, b.imageSize, b.isDefault,
      b.eventChannel, b.replyChannel, b.config⟩ := rfl
  rw [hFields, decode, mk.injEq]
  exact ⟨hWord 0 (hInside (by decide)), hWord 1 (hInside (by decide)),
    hWord 2 (hInside (by decide)), hWord 3 (hInside (by decide)), hWord 4 (hInside (by decide)),
    hDefault, hWord 6 (hInside (by decide)), hWord 7 (hInside (by decide)), hConfig⟩

/-- The bytes at the base of a memory with the word for the default plugin made zero or one. -/
def normalized (l : List UInt8) : List UInt8 :=
  let isDefault := (l.drop 0x14).take 4 ≠ [0, 0, 0, 0]
  l.take 0x14 ++ [if isDefault then 1 else 0, 0, 0, 0] ++ (l.drop 0x18).take 0x88

theorem normalized_take (l : List UInt8) : normalized (l.take size) = normalized l := by
  simp [normalized, List.take_take, List.drop_take, size]

/-- All words but one are passed on as they stand. -/
theorem words_decode (bytes : Bytes size) :
    (decode bytes).words = LittleEndian.decodeWords 5 bytes.toList ++
      [if bytes.word 0x14 (by decide) != 0 then 1 else 0] ++
      LittleEndian.decodeWords 34 (bytes.toList.drop 0x18) := by
  have hFront : LittleEndian.decodeWords 5 bytes.toList =
      [bytes.word 0x00 (by decide), bytes.word 0x04 (by decide), bytes.word 0x08 (by decide),
        bytes.word 0x0C (by decide), bytes.word 0x10 (by decide)] := by
    simp [LittleEndian.decodeWords, List.range_succ, Bytes.word_eq_value]
  have hChannels : LittleEndian.decodeWords 2 (bytes.toList.drop 0x18) =
      [bytes.word 0x18 (by decide), bytes.word 0x1C (by decide)] := by
    simp [LittleEndian.decodeWords, List.range_succ, Bytes.word_eq_value]
  have hConfig : (decode bytes).config.toList =
      LittleEndian.decodeWords 32 (bytes.toList.drop 0x20) := by
    apply List.ext_getElem
    · simp [LittleEndian.decodeWords]
    · intro i hi _
      simp [decode, LittleEndian.decodeWords, Bytes.word_eq_value]
  rw [words, hConfig, hFront, LittleEndian.decodeWords_add 2 32, hChannels, List.drop_drop]
  simp [decode]

theorem encode_decode (bytes : Bytes size) : (decode bytes).encode = normalized bytes.toList := by
  have hLength : bytes.toList.length = 0xA0 := bytes.length_toList
  have hFront : LittleEndian.encodeWords (LittleEndian.decodeWords 5 bytes.toList) =
      bytes.toList.take 0x14 := LittleEndian.encodeWords_decodeWords (by omega)
  have hRest : LittleEndian.encodeWords (LittleEndian.decodeWords 34 (bytes.toList.drop 0x18)) =
      (bytes.toList.drop 0x18).take 0x88 :=
    LittleEndian.encodeWords_decodeWords (by rw [List.length_drop]; omega)
  have hDefault : bytes.word 0x14 (by decide) = 0 ↔
      (bytes.toList.drop 0x14).take 4 = [0, 0, 0, 0] := Bytes.word_eq_iff _ 0
  have hFlag : LittleEndian.encodeWords [if bytes.word 0x14 (by decide) != 0 then 1 else 0] =
      [if (bytes.toList.drop 0x14).take 4 ≠ [0, 0, 0, 0] then 1 else 0, 0, 0, 0] := by
    by_cases hZero : bytes.word 0x14 (by decide) = 0
    · rw [if_neg (by simpa using hZero), if_neg (not_not.mpr (hDefault.mp hZero))]
      rfl
    · rw [if_pos (by simpa using hZero), if_pos (mt hDefault.mpr hZero)]
      rfl
  rw [encode, words_decode, LittleEndian.encodeWords_append, LittleEndian.encodeWords_append,
    hFront, hRest, hFlag, normalized]

theorem encode_pluginMagic :
    LittleEndian.encode 4 pluginMagic.toNat = "PLGH".toUTF8.data.toList := by
  decide +kernel

/-- The letters, seven words, and the words of the configuration. -/
theorem encode_of_magic {b : ControlBlock} (h : b.magic = pluginMagic) :
    b.encode = "PLGH".toUTF8.data.toList ++ LittleEndian.encodeWords
      ([b.version, b.heapAddress, b.heapSize, b.imageSize, if b.isDefault then 1 else 0,
        b.eventChannel, b.replyChannel] ++ b.config.toList) := by
  rw [← encode_pluginMagic, encode, words, h]
  rfl

theorem magic_decode_iff (memory : Bytes n) (h : 0 + size ≤ n) :
    (decode (memory.slice 0 size h)).magic = pluginMagic ↔
      memory.toList.take 4 = "PLGH".toUTF8.data.toList := by
  change (memory.slice 0 size h).word 0x00 (by decide) = pluginMagic ↔ _
  rw [Bytes.word_eq_iff, encode_pluginMagic, Bytes.toList_slice, List.drop_zero, List.drop_zero,
    List.take_take]
  rfl

theorem read?_eq_none_iff (memory : Bytes n) :
    read? memory = none ↔ n < size ∨ memory.toList.take 4 ≠ "PLGH".toUTF8.data.toList := by
  by_cases h : 0 + size ≤ n
  · have hRoom : ¬ n < size := by omega
    simp only [read?, dif_pos h, magic_decode_iff]
    simp [hRoom]
  · simp only [read?, dif_neg h, true_iff]
    omega

theorem read?_eq_some_iff {memory : Bytes n} {b : ControlBlock} :
    read? memory = some b ↔
      b.magic = pluginMagic ∧ ∃ h : 0 + size ≤ n, decode (memory.slice 0 size h) = b := by
  rw [read?]
  constructor
  · intro h
    split at h
    · rename_i hRoom
      obtain ⟨hMagic, hBlock⟩ := Option.ite_none_right_eq_some.mp h
      obtain rfl := Option.some.inj hBlock
      exact ⟨hMagic, hRoom, rfl⟩
    · cases h
  · rintro ⟨hMagic, hRoom, rfl⟩
    rw [dif_pos hRoom]
    exact if_pos hMagic

theorem read?_of_encode {b : ControlBlock} {memory : Bytes n} {rest : List UInt8}
    (hMagic : b.magic = pluginMagic) (h : memory.toList = b.encode ++ rest) :
    read? memory = some b := by
  have hRoom : 0 + size ≤ n := by
    rw [← memory.length_toList, h, List.length_append, b.length_encode]
    omega
  refine read?_eq_some_iff.mpr ⟨hMagic, hRoom, ?_⟩
  apply decode_encode
  rw [Bytes.toList_slice, h, List.drop_zero, List.take_left' b.length_encode]

theorem encode_of_read? {memory : Bytes n} {b : ControlBlock} (h : read? memory = some b) :
    b.encode = normalized memory.toList := by
  obtain ⟨_, _, rfl⟩ := read?_eq_some_iff.mp h
  rw [encode_decode, Bytes.toList_slice, List.drop_zero, normalized_take]

/-- Reading gives nothing exactly for a memory that is too short or begins with other letters. What was
written is read back, and stands in front of what the memory held. What was read is written as the bytes
it was read from, with the word for the default plugin made zero or one. -/
theorem transcription_exact (memory : Bytes n) :
    (read? memory = none ↔
      n < 0xA0 ∨ memory.toList.take 4 ≠ "PLGH".toUTF8.data.toList) ∧
    (∀ b : ControlBlock, b.magic = pluginMagic → 0xA0 ≤ n →
      ∃ written, b.write? memory = some written ∧ read? written = some b ∧
        written.toList.drop 0xA0 = memory.toList.drop 0xA0) ∧
    ∀ b, read? memory = some b → ∀ (m : Nat) (target : Bytes m), 0xA0 ≤ m →
      ∃ written, b.write? target = some written ∧
        written.toList.take 0xA0 = normalized memory.toList := by
  refine ⟨read?_eq_none_iff memory, ?_, ?_⟩
  · intro b hMagic hRoom
    obtain ⟨written, hWrite, hBytes⟩ := b.exists_write? memory hRoom
    rw [b.splice_encode] at hBytes
    refine ⟨written, hWrite, read?_of_encode hMagic hBytes, ?_⟩
    rw [hBytes, List.drop_left' b.length_encode]
  · intro b hRead m target hRoom
    obtain ⟨written, hWrite, hBytes⟩ := b.exists_write? target hRoom
    rw [b.splice_encode] at hBytes
    refine ⟨written, hWrite, ?_⟩
    rw [hBytes, List.take_left' b.length_encode, encode_of_read? hRead]

/-- A memory with a word to spare. Where the default plugin is named it says neither yes nor no. -/
def undecided : Bytes 0xA4 where
  toByteArray := (LittleEndian.encodeWords ([pluginMagic, 2, 0x06000000, 0x1000, 0x2000, 0xFFFFFF00,
    7, 8] ++ (List.range 32).map Nat.toUInt32 ++ [0xAAAAAAAA])).toByteArray
  size_eq := by decide +kernel

theorem undecided_memory_decided :
    ∃ b written, read? undecided = some b ∧ b.write? undecided = some written ∧
      read? written = some b ∧ written.toList.drop 0xA0 = [0xAA, 0xAA, 0xAA, 0xAA] ∧
      (written.toList.drop 0x14).take 4 = [1, 0, 0, 0] := by
  obtain ⟨hNothing, hWritten, hReproduced⟩ := transcription_exact undecided
  have hRead : read? undecided ≠ none := by
    rw [Ne, hNothing]
    decide +kernel
  obtain ⟨b, hSome⟩ := Option.ne_none_iff_exists'.mp hRead
  obtain ⟨hMagic, _⟩ := read?_eq_some_iff.mp hSome
  obtain ⟨written, hWrite, hBack, hBehind⟩ := hWritten b hMagic (by decide)
  obtain ⟨_, hSame, hFront⟩ := hReproduced b hSome 0xA4 undecided (by decide)
  cases hWrite.symm.trans hSame
  refine ⟨b, written, hSome, hWrite, hBack, ?_, ?_⟩
  · rw [hBehind]
    decide +kernel
  · have hInside : (written.toList.drop 0x14).take 4 =
        ((written.toList.take 0xA0).drop 0x14).take 4 := by
      rw [List.drop_take, List.take_take]
      rfl
    rw [hInside, hFront]
    decide +kernel

end GuestPlugin.ControlBlock
