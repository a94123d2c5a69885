import GuestPlugin.Container.Header

/-! # Texts that are well-formed

A text that was encoded is read back as it was, character by character. No byte of it is zero unless it
holds NUL itself, so padding with zeros shows where it ends, and a field that it fills needs none.
-/

set_option autoImplicit false

namespace GuestPlugin

namespace Utf8

theorem charsFrom_of_extract {bytes : ByteArray} {i : Nat} {chars : List Char}
    (h : bytes.extract i bytes.size = chars.utf8Encode) : charsFrom bytes i = chars := by
  induction chars generalizing i with
  | nil =>
    have hSize := congrArg ByteArray.size h
    simp only [List.utf8Encode_nil, ByteArray.size_extract, ByteArray.size_empty] at hSize
    rw [charsFrom, dif_neg (by omega)]
  | cons c rest ih =>
    rw [List.utf8Encode_cons, List.utf8Encode_singleton] at h
    have hDecode : bytes.utf8DecodeChar? i = some c := by
      rw [ByteArray.utf8DecodeChar?_eq_utf8DecodeChar?_extract, h,
        ByteArray.utf8DecodeChar?_utf8EncodeChar_append]
    have hInside : i < bytes.size :=
      ByteArray.lt_size_of_isSome_utf8DecodeChar? (by rw [hDecode]; rfl)
    have hWidth : (String.utf8EncodeChar c).toByteArray.size = c.utf8Size := by
      rw [List.size_toByteArray, String.length_utf8EncodeChar]
    have hSize := congrArg ByteArray.size h
    rw [ByteArray.size_extract, ByteArray.size_append, hWidth] at hSize
    have hRest : bytes.extract (i + c.utf8Size) bytes.size = rest.utf8Encode := by
      calc bytes.extract (i + c.utf8Size) bytes.size
        _ = (bytes.extract i bytes.size).extract c.utf8Size (bytes.size - i) := by
          rw [ByteArray.extract_extract]
          congr 1
          omega
        _ = rest.utf8Encode := by
          rw [h]
          exact ByteArray.extract_append_eq_right hWidth.symm (by omega)
    rw [charsFrom, dif_pos hInside, hDecode]
    exact congrArg (c :: ·) (ih hRest)

theorem decodeLossy_toByteArray (text : String) : decodeLossy text.toByteArray = text := by
  have hWhole : text.toByteArray.extract 0 text.toByteArray.size = text.toList.utf8Encode := by
    rw [ByteArray.extract_zero_size, String.utf8Encode_toList]
  rw [decodeLossy, charsFrom_of_extract hWhole, String.ofList_toList]

theorem zero_notMem_utf8EncodeChar {c : Char} (h : c ≠ '\x00') :
    (0 : UInt8) ∉ String.utf8EncodeChar c := by
  have hPos : c.val.toNat ≠ 0 := fun hZero => h (Char.ext (UInt32.toNat_inj.mp hZero))
  have hByte {n : Nat} (hn : n % 256 ≠ 0) : (0 : UInt8) ≠ UInt8.ofNat n := by
    intro hEq
    exact hn (by simpa using (congrArg UInt8.toNat hEq).symm)
  -- In the longer forms every byte has its high bit set.
  fun_cases String.utf8EncodeChar c
  · simp only [List.mem_cons, List.not_mem_nil, or_false]
    exact hByte (by omega)
  · simp only [List.mem_cons, List.not_mem_nil, or_false, not_or]
    exact ⟨hByte (by omega), hByte (by omega)⟩
  · simp only [List.mem_cons, List.not_mem_nil, or_false, not_or]
    exact ⟨hByte (by omega), hByte (by omega), hByte (by omega)⟩
  · simp only [List.mem_cons, List.not_mem_nil, or_false, not_or]
    exact ⟨hByte (by omega), hByte (by omega), hByte (by omega), hByte (by omega)⟩

theorem toList_toByteArray (text : String) :
    text.toByteArray.data.toList = text.toList.flatMap String.utf8EncodeChar := by
  rw [← String.utf8Encode_toList, List.utf8Encode, List.toList_data_toByteArray]

theorem zero_notMem_toByteArray {text : String} (h : '\x00' ∉ text.toList) :
    (0 : UInt8) ∉ text.toByteArray.data.toList := by
  rw [toList_toByteArray]
  intro hMem
  obtain ⟨c, hc, hZero⟩ := List.mem_flatMap.mp hMem
  refine zero_notMem_utf8EncodeChar ?_ hZero
  rintro rfl
  exact h hc

/-- No byte is larger than the first one of the longest form can be, and the bytes of a character beyond
ASCII are all beyond ASCII. -/
theorem bounds_of_mem_utf8EncodeChar {c : Char} {byte : UInt8}
    (h : byte ∈ String.utf8EncodeChar c) :
    byte.toNat < 0xF8 ∧ (0x80 ≤ c.toNat → 0x80 ≤ byte.toNat) := by
  have hPoint : c.val.toNat < 0x110000 := by
    rcases c.valid with hLow | ⟨_, hHigh⟩
    · exact Nat.lt_trans hLow (by decide)
    · exact hHigh
  have hByte {n : Nat} (hn : n % 256 < 0xF8 ∧ (0x80 ≤ c.val.toNat → 0x80 ≤ n % 256)) :
      (UInt8.ofNat n).toNat < 0xF8 ∧ (0x80 ≤ c.toNat → 0x80 ≤ (UInt8.ofNat n).toNat) := by
    rwa [UInt8.toNat_ofNat']
  revert h
  fun_cases String.utf8EncodeChar c
  · simp only [List.mem_cons, List.not_mem_nil, or_false]
    rintro rfl
    exact hByte (by omega)
  · simp only [List.mem_cons, List.not_mem_nil, or_false]
    rintro (rfl | rfl) <;> exact hByte (by omega)
  · simp only [List.mem_cons, List.not_mem_nil, or_false]
    rintro (rfl | rfl | rfl) <;> exact hByte (by omega)
  · simp only [List.mem_cons, List.not_mem_nil, or_false]
    rintro (rfl | rfl | rfl | rfl) <;> exact hByte (by omega)

theorem lt_of_mem_toByteArray {text : String} {byte : UInt8}
    (h : byte ∈ text.toByteArray.data.toList) : byte.toNat < 0xF8 := by
  rw [toList_toByteArray] at h
  obtain ⟨c, _, hByte⟩ := List.mem_flatMap.mp h
  exact (bounds_of_mem_utf8EncodeChar hByte).1

/-- Among the bytes that occur in texts, a character begins with any but a continuation. -/
theorem isUTF8FirstByte_iff {byte : UInt8} (h : byte.toNat < 0xF8) :
    byte.IsUTF8FirstByte ↔ isContinuation byte = false := by
  have hTable : ∀ n : Fin 0xF8,
      (UInt8.ofNat n).IsUTF8FirstByte ↔ isContinuation (UInt8.ofNat n) = false := by
    decide +kernel
  have hByte := hTable ⟨byte.toNat, h⟩
  rwa [UInt8.ofNat_toNat] at hByte

end Utf8

theorem Header.text_padded {text : String} (h : '\x00' ∉ text.toList) (count : Nat) :
    Header.text (text.toByteArray.data.toList ++ List.replicate count 0) = text := by
  have hBytes : ∀ byte ∈ text.toByteArray.data.toList, decide (byte ≠ 0) = true := by
    intro byte hByte
    rw [decide_eq_true_eq]
    rintro rfl
    exact Utf8.zero_notMem_toByteArray h hByte
  have hPadding : (List.replicate count (0 : UInt8)).takeWhile (· ≠ 0) = [] := by
    cases count <;> simp [List.replicate_succ]
  have hWhole : text.toByteArray.data.toList.toByteArray = text.toByteArray := by
    apply ByteArray.ext
    rw [List.data_toByteArray, Array.toArray_toList]
  rw [Header.text, List.takeWhile_append_of_pos hBytes, hPadding, List.append_nil, hWhole,
    Utf8.decodeLossy_toByteArray]

end GuestPlugin
