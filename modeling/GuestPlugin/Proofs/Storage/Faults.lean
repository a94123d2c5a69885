import GuestPlugin.Proofs.Storage.Stream

/-! # Streams on which calls fail

Which of its calls fail is part of a stream, and so is how many were made. A seek and the read behind it
therefore have a number each, and from these numbers it is known beforehand what comes of them. Only the
place where a stream stands is changed by what was asked of it before.
-/

set_option autoImplicit false

namespace GuestPlugin.Stream

/-- The stream after so many seeks and reads more, wherever it then stands. -/
structure After (s : Stream) (seeks reads : Nat) (s' : Stream) : Prop where
  content : s'.content = s.content
  length : s'.length = s.length
  seekFails : s'.seekFails = s.seekFails
  readFails : s'.readFails = s.readFails
  seeks : s'.seeks = s.seeks + seeks
  reads : s'.reads = s.reads + reads

/-- Whether a range cannot be read by the seek and the read that have this number from here on: one of
them fails, or the content ends before the range does. -/
def Denies (s : Stream) (turn offset size : Nat) : Prop :=
  s.seekFails (s.seeks + turn) ∨ s.readFails (s.reads + turn) ∨ s.content.size < offset + size

instance (s : Stream) (turn offset size : Nat) : Decidable (s.Denies turn offset size) :=
  inferInstanceAs (Decidable (_ ∨ _))

/-- Whether a range that a header declares cannot be read. An empty range always can. -/
def Refuses (s : Stream) (turn offset size : Nat) : Prop :=
  size ≠ 0 ∧ (s.length < offset + size ∨ s.Denies turn offset size)

instance (s : Stream) (turn offset size : Nat) : Decidable (s.Refuses turn offset size) :=
  inferInstanceAs (Decidable (_ ∧ _))

/-- How many seeks, and how many reads, a range takes. -/
def turnsFor (size : Nat) : Nat := if size = 0 then 0 else 1

namespace After

variable {s s' : Stream} {seeks reads turns turn : Nat}

theorem refl (s : Stream) : s.After 0 0 s := ⟨rfl, rfl, rfl, rfl, rfl, rfl⟩

theorem trans {s'' : Stream} {seeks' reads' : Nat} (h : s.After seeks reads s')
    (h' : s'.After seeks' reads' s'') : s.After (seeks + seeks') (reads + reads') s'' where
  content := h'.content.trans h.content
  length := h'.length.trans h.length
  seekFails := h'.seekFails.trans h.seekFails
  readFails := h'.readFails.trans h.readFails
  seeks := by rw [h'.seeks, h.seeks, Nat.add_assoc]
  reads := by rw [h'.reads, h.reads, Nat.add_assoc]

theorem denies_iff {offset size : Nat} (h : s.After turns turns s') :
    s'.Denies turn offset size ↔ s.Denies (turns + turn) offset size := by
  simp only [Denies, h.content, h.seekFails, h.readFails, h.seeks, h.reads, Nat.add_assoc]

theorem seek_cases (h : s.After seeks reads s') (target : Nat) :
    (s.seekFails (s.seeks + (seeks + 1)) ∧ ∃ s'', s'.seek target = (none, s'')) ∨
      ¬ s.seekFails (s.seeks + (seeks + 1)) ∧
        ∃ s'', s'.seek target = (some (), s'') ∧ s.After (seeks + 1) reads s'' ∧
          s''.position = target := by
  have hFails : s'.seekFails (s'.seeks + 1) = s.seekFails (s.seeks + (seeks + 1)) := by
    rw [h.seekFails, h.seeks, Nat.add_assoc]
  rw [← hFails]
  by_cases hSeek : s'.seekFails (s'.seeks + 1)
  · exact .inl ⟨hSeek, _, if_pos hSeek⟩
  · have hMoved : s'.After 1 0 { s' with seeks := s'.seeks + 1, position := target } :=
      ⟨rfl, rfl, rfl, rfl, rfl, rfl⟩
    exact .inr ⟨hSeek, _, if_neg hSeek, h.trans hMoved, rfl⟩

theorem seekEnd_cases (h : s.After seeks reads s') :
    (s.seekFails (s.seeks + (seeks + 1)) ∧ ∃ s'', s'.seekEnd = (none, s'')) ∨
      ¬ s.seekFails (s.seeks + (seeks + 1)) ∧
        ∃ s'', s'.seekEnd = (some s.length, s'') ∧ s.After (seeks + 1) reads s'' := by
  rcases h.seek_cases s'.length with ⟨hFails, s'', hSeek⟩ | ⟨hWorks, s'', hSeek, hAfter, _⟩
  · exact .inl ⟨hFails, s'', by rw [seekEnd, hSeek]⟩
  · exact .inr ⟨hWorks, s'', by rw [seekEnd, hSeek, ← hAfter.length], hAfter⟩

theorem read_cases (h : s.After seeks reads s') (count : Nat) :
    ((s.readFails (s.reads + (reads + 1)) ∨ s.content.size < s'.position + count) ∧
        ∃ s'', s'.read count = (none, s'')) ∨
      ¬ (s.readFails (s.reads + (reads + 1)) ∨ s.content.size < s'.position + count) ∧
        ∃ bytes s'', s'.read count = (some bytes, s'') ∧
          bytes.toList = sliceOf s.content s'.position count ∧ s.After seeks (reads + 1) s'' ∧
          s''.position = s'.position + count := by
  have hFails : s'.readFails (s'.reads + 1) = s.readFails (s.reads + (reads + 1)) := by
    rw [h.readFails, h.reads, Nat.add_assoc]
  rw [← hFails, ← h.content, read]
  split
  · rename_i hInside
    by_cases hRead : s'.readFails (s'.reads + 1)
    · exact .inl ⟨.inl hRead, _, if_pos hRead⟩
    · have hMoved : s'.After 0 1
          { s' with reads := s'.reads + 1, position := s'.position + count } :=
        ⟨rfl, rfl, rfl, rfl, rfl, rfl⟩
      exact .inr ⟨not_or.mpr ⟨hRead, Nat.not_lt.mpr hInside⟩, _, _, if_neg hRead,
        Bytes.toList_slice _ _ _ _, h.trans hMoved, rfl⟩
  · rename_i hOutside
    exact .inl ⟨.inr (Nat.not_le.mp hOutside), _, rfl⟩

theorem readAt_cases (h : s.After turns turns s') (offset size : Nat) :
    (s.Denies (turns + 1) offset size ∧ ∃ s'', s'.readAt offset size = (none, s'')) ∨
      ¬ s.Denies (turns + 1) offset size ∧
        ∃ bytes s'', s'.readAt offset size = (some bytes, s'') ∧
          s.After (turns + 1) (turns + 1) s'' := by
  rw [readAt]
  rcases h.seek_cases offset with ⟨hFails, s'', hSeek⟩ | ⟨hMoves, middle, hSeek, hMiddle, hPlace⟩
  · rw [hSeek]
    exact .inl ⟨.inl hFails, s'', rfl⟩
  have hRead := hMiddle.read_cases size
  rw [hPlace] at hRead
  rw [hSeek]
  rcases hRead with ⟨hFails, hNone⟩ | ⟨hWorks, bytes, s'', hSome, _, hAfter, _⟩
  · exact .inl ⟨.inr hFails, hNone⟩
  · exact .inr ⟨not_or.mpr ⟨hMoves, hWorks⟩, bytes, s'', hSome, hAfter⟩

theorem readRange_cases (h : s.After turns turns s') (offset size : Nat) :
    (s.Refuses (turns + 1) offset size ∧ ∃ s'', s'.readRange offset size = (none, s'')) ∨
      ¬ s.Refuses (turns + 1) offset size ∧
        ∃ bytes s'', s'.readRange offset size = (some bytes, s'') ∧
          s.After (turns + turnsFor size) (turns + turnsFor size) s'' := by
  rw [readRange, turnsFor, h.length]
  by_cases hEmpty : size = 0
  · rw [if_pos hEmpty, if_pos hEmpty]
    exact .inr ⟨fun hRefused => hRefused.1 hEmpty, _, s', rfl, h⟩
  rw [if_neg hEmpty, if_neg hEmpty]
  by_cases hBeyond : s.length < offset + size
  · rw [if_pos hBeyond]
    exact .inl ⟨⟨hEmpty, .inl hBeyond⟩, s', rfl⟩
  rw [if_neg hBeyond]
  rcases h.readAt_cases offset size with ⟨hDenied, s'', hNone⟩ | ⟨hGranted, bytes, s'', hSome, hAfter⟩
  · rw [hNone]
    exact .inl ⟨⟨hEmpty, .inr hDenied⟩, s'', rfl⟩
  · rw [hSome]
    exact .inr ⟨fun hRefused => not_or.mpr ⟨hBeyond, hGranted⟩ hRefused.2, _, s'', rfl, hAfter⟩

theorem of_seek {target : Nat} (h : s.seek target = (some (), s')) : s.After 1 0 s' := by
  rcases (refl s).seek_cases target with ⟨_, _, hNone⟩ | ⟨_, _, hSome, hAfter, _⟩
  · cases h.symm.trans hNone
  · cases h.symm.trans hSome
    exact hAfter

theorem of_seekEnd {length : Nat} (h : s.seekEnd = (some length, s')) : s.After 1 0 s' := by
  rcases (refl s).seekEnd_cases with ⟨_, _, hNone⟩ | ⟨_, _, hSome, hAfter⟩
  · cases h.symm.trans hNone
  · cases h.symm.trans hSome
    exact hAfter

theorem of_read {count : Nat} {bytes : Bytes count} (h : s.read count = (some bytes, s')) :
    s.After 0 1 s' := by
  rcases (refl s).read_cases count with ⟨_, _, hNone⟩ | ⟨_, _, _, hSome, _, hAfter, _⟩
  · cases h.symm.trans hNone
  · cases h.symm.trans hSome
    exact hAfter

theorem of_readRange {offset size : Nat} {bytes : ByteArray}
    (h : s.readRange offset size = (some bytes, s')) :
    ∃ turns, s.After turns turns s' := by
  rcases (refl s).readRange_cases offset size with ⟨_, _, hNone⟩ | ⟨_, _, _, hSome, hAfter⟩
  · cases h.symm.trans hNone
  · cases h.symm.trans hSome
    exact ⟨_, hAfter⟩

end After

/-- Calls on a stream in which none fails leave another one of the same file. -/
theorem IsFile.after {s s' : Stream} {file : ByteArray} {position seeks reads : Nat}
    (h : s.IsFile file position) (hAfter : s.After seeks reads s') : s'.IsFile file s'.position where
  content := hAfter.content.trans h.content
  length := hAfter.length.trans h.length
  position := rfl
  seeks k := by rw [hAfter.seekFails, h.seeks]
  reads k := by rw [hAfter.readFails, h.reads]

/-- Two streams on which the same calls fail from here on, of files that end at the same place. -/
structure InStep (s t : Stream) : Prop where
  size : t.content.size = s.content.size
  seeks : ∀ k, t.seekFails (t.seeks + k) = s.seekFails (s.seeks + k)
  reads : ∀ k, t.readFails (t.reads + k) = s.readFails (s.reads + k)

variable {s t s' t' : Stream}

theorem inStep_of_isFile {file file' : ByteArray} {i j : Nat} (hs : s.IsFile file i)
    (ht : t.IsFile file' j) (h : file'.size = file.size) : s.InStep t where
  size := by rw [hs.content, ht.content, h]
  seeks k := by rw [hs.seeks, ht.seeks]
  reads k := by rw [hs.reads, ht.reads]

namespace InStep

theorem denies_iff (h : s.InStep t) (turn offset size : Nat) :
    t.Denies turn offset size ↔ s.Denies turn offset size := by
  rw [Denies, Denies, h.seeks, h.reads, h.size]

theorem after {seeks reads : Nat} (h : s.InStep t) (hs : s.After seeks reads s')
    (ht : t.After seeks reads t') : s'.InStep t' where
  size := by rw [hs.content, ht.content, h.size]
  seeks k := by
    rw [hs.seekFails, ht.seekFails, hs.seeks, ht.seeks, Nat.add_assoc, Nat.add_assoc, h.seeks]
  reads k := by
    rw [hs.readFails, ht.readFails, hs.reads, ht.reads, Nat.add_assoc, Nat.add_assoc, h.reads]

/-- A range that holds the same bytes in both files is read from both or from neither. -/
theorem readAt_cases (h : s.InStep t) {offset size : Nat}
    (hSlice : sliceOf t.content offset size = sliceOf s.content offset size) :
    (∃ s' t', s.readAt offset size = (none, s') ∧ t.readAt offset size = (none, t')) ∨
      ∃ bytes s' t', s.readAt offset size = (some bytes, s') ∧
        t.readAt offset size = (some bytes, t') ∧ s'.content = s.content ∧
        t'.content = t.content ∧ s'.InStep t' := by
  have hSame := h.denies_iff (0 + 1) offset size
  rcases (After.refl s).readAt_cases offset size with
    ⟨hDenied, s', hNone⟩ | ⟨hRead, bytes, s', hSome, hAfter⟩
  · rcases (After.refl t).readAt_cases offset size with ⟨_, t', hNone'⟩ | ⟨hRead', _⟩
    · exact .inl ⟨s', t', hNone, hNone'⟩
    · exact absurd (hSame.mpr hDenied) hRead'
  · rcases (After.refl t).readAt_cases offset size with
      ⟨hDenied', _⟩ | ⟨_, bytes', t', hSome', hAfter'⟩
    · exact absurd (hSame.mp hDenied') hRead
    · have hBytes := (readAt_eq_some hSome).2
      rw [← hSlice, ← (readAt_eq_some hSome').2] at hBytes
      obtain rfl := Bytes.ext_toList hBytes
      exact .inr ⟨bytes, s', t', hSome, hSome', hAfter.content, hAfter'.content,
        h.after hAfter hAfter'⟩

end InStep

end GuestPlugin.Stream
