import GuestPlugin.Storage.Stream

/-! # What a stream yields

Every call leaves the content alone, so whatever is read later is read from the file that was opened.
A read that succeeds gives exactly the bytes at its place.
-/

set_option autoImplicit false

namespace GuestPlugin.Stream

@[simp] theorem content_seek (s : Stream) (target : Nat) : (s.seek target).2.content = s.content := by
  unfold seek
  split <;> rfl

@[simp] theorem content_seekEnd (s : Stream) : s.seekEnd.2.content = s.content := by
  unfold seekEnd
  have h := s.content_seek s.length
  split <;> simp_all

@[simp] theorem content_read (s : Stream) (count : Nat) : (s.read count).2.content = s.content := by
  unfold read
  split
  · split <;> rfl
  · rfl

@[simp] theorem content_readAt (s : Stream) (offset size : Nat) :
    (s.readAt offset size).2.content = s.content := by
  unfold readAt
  have h := s.content_seek offset
  split
  · rename_i s' hSeek
    rw [hSeek] at h
    rw [content_read, h]
  · rename_i s' hSeek
    rwa [hSeek] at h

@[simp] theorem content_readRange (s : Stream) (offset size : Nat) :
    (s.readRange offset size).2.content = s.content := by
  unfold readRange
  split
  · rfl
  split
  · rfl
  · exact content_readAt s offset size

/-- The bytes of the content from `offset` on, as many as there are up to `size`. -/
def sliceOf (content : ByteArray) (offset size : Nat) : List UInt8 :=
  (content.data.toList.drop offset).take size

theorem position_of_seek {s s' : Stream} {target : Nat} (h : s.seek target = (some (), s')) :
    s'.position = target ∧ s'.content = s.content := by
  unfold seek at h
  split at h
  · cases h
  · cases h
    exact ⟨rfl, rfl⟩

theorem read_eq_some {s s' : Stream} {count : Nat} {bytes : Bytes count}
    (h : s.read count = (some bytes, s')) :
    s.position + count ≤ s.content.size ∧ bytes.toList = sliceOf s.content s.position count := by
  unfold read at h
  split at h
  · rename_i hFits
    split at h
    · cases h
    · cases h
      exact ⟨hFits, Bytes.toList_slice _ _ _ _⟩
  · cases h

theorem readAt_eq_some {s s' : Stream} {offset size : Nat} {bytes : Bytes size}
    (h : s.readAt offset size = (some bytes, s')) :
    offset + size ≤ s.content.size ∧ bytes.toList = sliceOf s.content offset size := by
  unfold readAt at h
  split at h
  · rename_i middle hSeek
    obtain ⟨hPosition, hContent⟩ := position_of_seek hSeek
    have hRead := read_eq_some h
    rwa [hPosition, hContent] at hRead
  · cases h

theorem position_of_read {s s' : Stream} {count : Nat} {bytes : Bytes count}
    (h : s.read count = (some bytes, s')) :
    s'.position = s.position + count ∧ s'.content = s.content := by
  unfold read at h
  split at h
  · split at h
    · cases h
    · cases h
      exact ⟨rfl, rfl⟩
  · cases h

theorem seekEnd_eq_some {s s' : Stream} {length : Nat} (h : s.seekEnd = (some length, s')) :
    length = s.length := by
  unfold seekEnd seek at h
  split at h
  · rename_i hSeek
    split at hSeek
    · cases hSeek
    · cases hSeek
      cases h
      rfl
  · cases h

theorem readRange_eq_some {s s' : Stream} {offset size : Nat} {bytes : ByteArray}
    (h : s.readRange offset size = (some bytes, s')) :
    bytes.data.toList = sliceOf s.content offset size ∧ s'.content = s.content := by
  have hContent : s'.content = s.content := by rw [← s.content_readRange offset size, h]
  refine ⟨?_, hContent⟩
  unfold readRange at h
  split at h
  · rename_i hEmpty
    cases h
    rw [hEmpty, sliceOf, List.take_zero]
    rfl
  split at h
  · cases h
  · rcases hRead : s.readAt offset size with ⟨_ | read, after⟩
    · rw [hRead] at h
      cases h
    · rw [hRead] at h
      cases h
      exact (readAt_eq_some hRead).2

theorem length_sliceOf_eq (content : ByteArray) (offset size : Nat) :
    (sliceOf content offset size).length = min size (content.size - offset) := by
  rw [sliceOf, List.length_take, List.length_drop]
  rfl

theorem length_sliceOf {content : ByteArray} {offset size : Nat}
    (h : offset + size ≤ content.size) : (sliceOf content offset size).length = size := by
  rw [length_sliceOf_eq]
  omega

@[simp] theorem sliceOf_zero (content : ByteArray) (offset : Nat) : sliceOf content offset 0 = [] :=
  List.take_zero

/-- A stream of this file at this position, in which no call fails. -/
structure IsFile (s : Stream) (file : ByteArray) (position : Nat) : Prop where
  content : s.content = file
  length : s.length = file.size
  position : s.position = position
  seeks : ∀ k, s.seekFails k = false
  reads : ∀ k, s.readFails k = false

theorem isFile_ofContent (file : ByteArray) : (ofContent file).IsFile file 0 :=
  ⟨rfl, rfl, rfl, fun _ => rfl, fun _ => rfl⟩

end GuestPlugin.Stream
