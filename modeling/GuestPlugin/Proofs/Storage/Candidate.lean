import GuestPlugin.Proofs.Text.Utf8
import GuestPlugin.Storage.Directory
import Mathlib.Data.List.DropRight
import Mathlib.Data.List.Forall2

/-! # Which names have the plugin extension

The ending of a name is taken and compared by bytes. That this says the same as counting characters from the
end and comparing them one by one rests on two facts of UTF-8: a cut that is made at all is made between two
characters, and the bytes of which a letter's case can be seen are the characters of one byte.
-/

set_option autoImplicit false

namespace GuestPlugin.Entry

open Utf8

/-- The cuts that are allowed are those between the characters of the text, and those at its ends. -/
theorem isBoundary_iff (text : String) (i : Nat) :
    isBoundary text.toUTF8 i = true ↔
      ∃ front tail : String, text = front ++ tail ∧ front.utf8ByteSize = i := by
  have hCut : String.Pos.Raw.IsValid text ⟨i⟩ ↔
      ∃ front tail : String, text = front ++ tail ∧ front.utf8ByteSize = i := by
    rw [String.Pos.Raw.isValid_iff_exists_append]
    simp only [String.Pos.Raw.ext_iff, String.byteIdx_rawEndPos, eq_comm]
  rw [← hCut, String.Pos.Raw.isValid_iff_isUTF8FirstByte, isBoundary, String.toUTF8_eq_toByteArray]
  by_cases hInside : i < text.toByteArray.size
  · have hByte : text.toByteArray[i] ∈ text.toByteArray.data.toList := by
      rw [ByteArray.getElem_eq_getElem_data]
      exact Array.getElem_mem_toList _
    have hNotEnd : i ≠ text.toByteArray.size := by omega
    simp only [getElem?_pos text.toByteArray i hInside, Bool.not_eq_true', String.Pos.Raw.ext_iff,
      String.Pos.Raw.lt_iff, String.byteIdx_rawEndPos, ← String.size_toByteArray, hNotEnd, false_or,
      hInside, exists_true_left, String.getUTF8Byte]
    exact (isUTF8FirstByte_iff (lt_of_mem_toByteArray hByte)).symm
  · simp [String.Pos.Raw.ext_iff, String.Pos.Raw.lt_iff, ← String.size_toByteArray, hInside]

/-- The same character, or the two cases of one letter of ASCII. -/
def SameLetter (a b : Char) : Prop := a.toLower = b.toLower

theorem forall₂_sameLetter_iff {l l' : List Char} :
    List.Forall₂ SameLetter l l' ↔ l.map Char.toLower = l'.map Char.toLower := by
  rw [← List.forall₂_eq_eq_eq, List.forall₂_map_left_iff, List.forall₂_map_right_iff]
  rfl

theorem map_lower_utf8EncodeChar (c : Char) :
    (String.utf8EncodeChar c).map lower = String.utf8EncodeChar c.toLower := by
  rcases Nat.lt_or_ge c.toNat 0x80 with hAscii | hBeyond
  · have hTable : ∀ n : Fin 0x80, (String.utf8EncodeChar (Char.ofNat n)).map lower =
        String.utf8EncodeChar (Char.ofNat n).toLower := by
      decide +kernel
    have hChar := hTable ⟨c.toNat, hAscii⟩
    rwa [Char.ofNat_toNat] at hChar
  -- Beyond ASCII there is no capital, neither among the characters nor among their bytes.
  · have hSame : c.toLower = c := by
      have hNoCapital : ¬ (c.val ≥ 'A'.val ∧ c.val ≤ 'Z'.val) := by
        rintro ⟨_, hUpper⟩
        have hUpper' : c.toNat ≤ 0x5A := hUpper
        omega
      exact dif_neg hNoCapital
    have hBytes : ∀ byte ∈ String.utf8EncodeChar c, lower byte = byte := by
      intro byte hByte
      have hLarge := (bounds_of_mem_utf8EncodeChar hByte).2 hBeyond
      have hNoCapital : ¬ (0x41 ≤ byte && byte ≤ 0x5A) = true := by
        rw [Bool.and_eq_true, decide_eq_true_eq, decide_eq_true_eq]
        rintro ⟨_, hUpper⟩
        have hUpper' : byte.toNat ≤ 0x5A := hUpper
        omega
      exact if_neg hNoCapital
    rw [hSame]
    exact (List.map_congr_left hBytes).trans (List.map_id _)

/-- Bytes that are equal up to case are those of characters that are. -/
theorem map_lower_eq_iff {l l' : List Char} :
    (l.flatMap String.utf8EncodeChar).map lower = (l'.flatMap String.utf8EncodeChar).map lower ↔
      List.Forall₂ SameLetter l l' := by
  have hLower (m : List Char) : (m.flatMap String.utf8EncodeChar).map lower =
      (m.map Char.toLower).flatMap String.utf8EncodeChar := by
    simp only [List.map_flatMap, List.flatMap_map, map_lower_utf8EncodeChar]
  rw [forall₂_sameLetter_iff, hLower, hLower]
  constructor
  · intro h
    apply String.ofList_injective
    rw [← String.toByteArray_inj, String.toByteArray_ofList, String.toByteArray_ofList]
    exact congrArg List.toByteArray h
  · intro h
    rw [h]

theorem utf8ByteSize_eq {text text' : String}
    (h : List.Forall₂ SameLetter text.toList text'.toList) :
    text.utf8ByteSize = text'.utf8ByteSize := by
  have hLower := map_lower_eq_iff.mpr h
  rw [← toList_toByteArray, ← toList_toByteArray] at hLower
  simpa using congrArg List.length hLower

theorem length_eq {text text' : String} (h : List.Forall₂ SameLetter text.toList text'.toList) :
    text.length = text'.length := by
  rw [← String.length_toList, ← String.length_toList, h.length_eq]

/-- One text ends in another by bytes exactly if it can be cut in two of which the second is the other, character
by character. -/
theorem endsIn_iff (name extension : String) :
    endsIn name.toUTF8 extension.toUTF8 = true ↔
      ∃ front tail : String, name = front ++ tail ∧
        List.Forall₂ SameLetter tail.toList extension.toList := by
  have hBytes (front tail : String) :
      (front ++ tail).toByteArray.data.toList.drop front.utf8ByteSize =
        tail.toByteArray.data.toList := by
    rw [String.toByteArray_append, ByteArray.data_append, Array.toList_append]
    exact List.drop_left
  simp only [endsIn, Bool.and_eq_true, decide_eq_true_eq, isBoundary_iff, beq_iff_eq]
  simp only [String.toUTF8_eq_toByteArray, String.size_toByteArray]
  constructor
  · rintro ⟨_, ⟨front, tail, rfl, hStart⟩, hSame⟩
    rw [← hStart, hBytes, toList_toByteArray, toList_toByteArray, map_lower_eq_iff] at hSame
    exact ⟨front, tail, rfl, hSame⟩
  · rintro ⟨front, tail, rfl, hSame⟩
    have hSize := utf8ByteSize_eq hSame
    have hStart : (front ++ tail).utf8ByteSize - extension.utf8ByteSize = front.utf8ByteSize := by
      rw [String.utf8ByteSize_append, hSize, Nat.add_sub_cancel]
    rw [hStart, hBytes, toList_toByteArray, toList_toByteArray]
    refine ⟨?_, ⟨front, tail, rfl, rfl⟩, map_lower_eq_iff.mpr hSame⟩
    rw [String.utf8ByteSize_append, hSize]
    exact Nat.le_add_left _ _

theorem endsIn_iff_rtake (name extension : String) :
    endsIn name.toUTF8 extension.toUTF8 = true ↔
      List.Forall₂ SameLetter (name.toList.rtake extension.length) extension.toList := by
  rw [endsIn_iff]
  constructor
  · rintro ⟨front, tail, rfl, hSame⟩
    have hLength : tail.toList.length = extension.length := by
      rw [hSame.length_eq, String.length_toList]
    rw [String.toList_append, List.rtake, List.length_append, hLength, Nat.add_sub_cancel,
      List.drop_left]
    exact hSame
  · intro hSame
    refine ⟨.ofList (name.toList.take (name.toList.length - extension.length)),
      .ofList (name.toList.rtake extension.length), ?_, ?_⟩
    · rw [← String.ofList_append, List.rtake, List.take_append_drop, String.ofList_toList]
    · rwa [String.toList_ofList]

theorem isPlugin_iff (entry : Entry) (extension : String) :
    entry.isPlugin extension = true ↔ entry.isDirectory = false ∧ 5 ≤ entry.name.length ∧
      endsIn entry.name.toUTF8 extension.toUTF8 = true := by
  simp only [isPlugin, Bool.and_eq_true, Bool.not_eq_true', decide_eq_true_eq, and_assoc]
  rfl

theorem rtake_congr {name name' extension extension' : String}
    (hName : List.Forall₂ SameLetter name'.toList name.toList)
    (hExtension : List.Forall₂ SameLetter extension'.toList extension.toList) :
    List.Forall₂ SameLetter (name'.toList.rtake extension'.length) extension'.toList ↔
      List.Forall₂ SameLetter (name.toList.rtake extension.length) extension.toList := by
  rw [forall₂_sameLetter_iff, forall₂_sameLetter_iff, List.rtake, List.rtake,
    length_eq hExtension, hName.length_eq, List.map_drop, List.map_drop,
    forall₂_sameLetter_iff.mp hName, forall₂_sameLetter_iff.mp hExtension]

/-- A candidate is a file of at least five characters, of which the last are those of the extension one by one
up to case, as many as it has. The bytes of a name are cut between characters only, for a candidate right in
front of these last ones, and the case in which name and extension are written plays no part. -/
theorem isPlugin_by_characters (entry : Entry) (extension : String) :
    (entry.isPlugin extension = true ↔ entry.isDirectory = false ∧ 5 ≤ entry.name.length ∧
      List.Forall₂ SameLetter (entry.name.toList.rtake extension.length) extension.toList) ∧
    (∀ i, isBoundary entry.name.toUTF8 i = true ↔
      ∃ front tail : String, entry.name = front ++ tail ∧ front.utf8ByteSize = i) ∧
    (entry.isPlugin extension = true → ∃ front tail : String, entry.name = front ++ tail ∧
      tail.length = extension.length ∧
      front.utf8ByteSize = entry.name.toUTF8.size - extension.toUTF8.size) ∧
    ∀ (other : Entry) (extension' : String), other.isDirectory = entry.isDirectory →
      List.Forall₂ SameLetter other.name.toList entry.name.toList →
      List.Forall₂ SameLetter extension'.toList extension.toList →
      other.isPlugin extension' = entry.isPlugin extension := by
  refine ⟨?_, isBoundary_iff entry.name, ?_, ?_⟩
  · rw [isPlugin_iff, endsIn_iff_rtake]
  · rw [isPlugin_iff, endsIn_iff]
    rintro ⟨_, _, front, tail, hCut, hSame⟩
    refine ⟨front, tail, hCut, length_eq hSame, ?_⟩
    rw [String.toUTF8_eq_toByteArray, String.toUTF8_eq_toByteArray, String.size_toByteArray,
      String.size_toByteArray, hCut, String.utf8ByteSize_append, utf8ByteSize_eq hSame,
      Nat.add_sub_cancel]
  · intro other extension' hKind hName hExtension
    rw [Bool.eq_iff_iff, isPlugin_iff, isPlugin_iff, endsIn_iff_rtake, endsIn_iff_rtake, hKind,
      length_eq hName, rtake_congr hName hExtension]

end GuestPlugin.Entry
