import GuestPlugin.Proofs.Container.Reading
import GuestPlugin.Proofs.Region.StagedBytes
import GuestPlugin.Proofs.Storage.Faults

/-! # Files with more behind their end

A call that succeeds on a file succeeds with the same answer on a file that goes on behind it: ranges are
taken from the front, and lengths are only ever lower bounds. So it is with everything made of such calls.
The one number that tells the two files apart is the length a container remembers.
-/

set_option autoImplicit false

namespace GuestPlugin

namespace Stream

/-- A stream of a longer file than another, on which no later call fails that would not fail on that. -/
structure Prolongs (t s : Stream) (more : ByteArray) : Prop where
  content : t.content = s.content ++ more
  length : t.length = s.length + more.size
  seeks : ∀ k, s.seekFails (s.seeks + k) = false → t.seekFails (t.seeks + k) = false
  reads : ∀ k, s.readFails (s.reads + k) = false → t.readFails (t.reads + k) = false

theorem prolongs_of_isFile {s t : Stream} {file more : ByteArray} {i j : Nat} (hs : s.IsFile file i)
    (ht : t.IsFile (file ++ more) j) : t.Prolongs s more where
  content := by rw [ht.content, hs.content]
  length := by rw [ht.length, hs.length, ByteArray.size_append]
  seeks k _ := ht.seeks _
  reads k _ := ht.reads _

theorem sliceOf_append {file : ByteArray} {offset size : Nat} (more : ByteArray)
    (h : offset + size ≤ file.size) : sliceOf (file ++ more) offset size = sliceOf file offset size := by
  have hLength : file.data.toList.length = file.size := rfl
  rw [sliceOf, sliceOf, ByteArray.data_append, Array.toList_append,
    List.drop_append_of_le_length (by omega), List.take_append_of_le_length]
  rw [List.length_drop]
  omega

namespace Prolongs

variable {s s' t : Stream} {more : ByteArray}

theorem seek (h : t.Prolongs s more) {target : Nat} (hSeek : s.seek target = (some (), s'))
    (target' : Nat) :
    ∃ t', t.seek target' = (some (), t') ∧ t'.Prolongs s' more ∧ t'.position = target' := by
  unfold Stream.seek at hSeek ⊢
  split at hSeek
  · cases hSeek
  rename_i hFails
  cases hSeek
  have hSame := h.seeks 1 (Bool.eq_false_of_not_eq_true hFails)
  rw [if_neg (ne_true_of_eq_false hSame)]
  refine ⟨_, rfl, ⟨h.content, h.length, fun k hk => ?_, h.reads⟩, rfl⟩
  rw [Nat.add_assoc] at hk ⊢
  exact h.seeks (1 + k) hk

theorem seekEnd (h : t.Prolongs s more) {length : Nat} (hSeek : s.seekEnd = (some length, s')) :
    ∃ t', t.seekEnd = (some (length + more.size), t') ∧ t'.Prolongs s' more := by
  unfold Stream.seekEnd at hSeek ⊢
  split at hSeek
  · rename_i after hSeek'
    cases hSeek
    obtain ⟨t', hTarget, hAfter, _⟩ := h.seek hSeek' t.length
    rw [hTarget]
    dsimp only
    rw [hAfter.length]
    exact ⟨t', rfl, hAfter⟩
  · cases hSeek

theorem read (h : t.Prolongs s more) (hPosition : t.position = s.position) {count : Nat}
    {bytes : Bytes count} (hRead : s.read count = (some bytes, s')) :
    ∃ t', t.read count = (some bytes, t') ∧ t'.Prolongs s' more ∧ t'.position = s'.position := by
  obtain ⟨hFits, hBytes⟩ := read_eq_some hRead
  unfold Stream.read at hRead
  rw [dif_pos hFits] at hRead
  split at hRead
  · cases hRead
  rename_i hFails
  cases hRead
  have hSame := h.reads 1 (Bool.eq_false_of_not_eq_true hFails)
  have hRoom : t.position + count ≤ t.content.size := by
    rw [hPosition, h.content, ByteArray.size_append]
    omega
  unfold Stream.read
  rw [dif_pos hRoom, if_neg (ne_true_of_eq_false hSame)]
  have hSlice : Bytes.slice ⟨t.content, rfl⟩ t.position count hRoom =
      Bytes.slice ⟨s.content, rfl⟩ s.position count hFits := by
    refine Bytes.ext_toList (Eq.trans ?_ hBytes.symm)
    rw [Bytes.toList_slice]
    change sliceOf t.content t.position count = _
    rw [h.content, hPosition, sliceOf_append more hFits]
  rw [hSlice]
  refine ⟨_, rfl, ⟨h.content, h.length, h.seeks, fun k hk => ?_⟩, by rw [hPosition]⟩
  rw [Nat.add_assoc] at hk ⊢
  exact h.reads (1 + k) hk

theorem readAt (h : t.Prolongs s more) {offset size : Nat} {bytes : Bytes size}
    (hRead : s.readAt offset size = (some bytes, s')) :
    ∃ t', t.readAt offset size = (some bytes, t') ∧ t'.Prolongs s' more := by
  unfold Stream.readAt at hRead ⊢
  split at hRead
  · rename_i moved hSeek
    obtain ⟨t₁, hTarget, hMoved, hThere⟩ := h.seek hSeek offset
    have hPosition : t₁.position = moved.position := hThere.trans (position_of_seek hSeek).1.symm
    obtain ⟨t', hBytes, hAfter, _⟩ := hMoved.read hPosition hRead
    rw [hTarget]
    exact ⟨t', hBytes, hAfter⟩
  · cases hRead

theorem readRange (h : t.Prolongs s more) {offset size : Nat} {bytes : ByteArray}
    (hRead : s.readRange offset size = (some bytes, s')) :
    ∃ t', t.readRange offset size = (some bytes, t') ∧ t'.Prolongs s' more := by
  unfold Stream.readRange at hRead ⊢
  by_cases hEmpty : size = 0
  · rw [if_pos hEmpty] at hRead ⊢
    cases hRead
    exact ⟨t, rfl, h⟩
  rw [if_neg hEmpty] at hRead ⊢
  split at hRead
  · cases hRead
  rename_i hInside
  have hRoom : ¬ t.length < offset + size := by
    rw [h.length]
    omega
  rw [if_neg hRoom]
  rcases hAt : s.readAt offset size with ⟨_ | read, after⟩
  · rw [hAt] at hRead
    cases hRead
  · rw [hAt] at hRead
    cases hRead
    obtain ⟨t', hBytes, hAfter⟩ := h.readAt hAt
    rw [hBytes]
    exact ⟨t', rfl, hAfter⟩

end Prolongs
end Stream

namespace Container

open Reading

variable {s s' t : Stream} {more : ByteArray}

/-- A container that was read of a file with so many bytes more at its end. -/
def lengthened (c : Container) (extra : Nat) : Container :=
  { c with fileLength := c.fileLength + extra }

theorem ReadsHeader.exists_after {version : UInt32} {bytes : Bytes Header.size}
    (h : ReadsHeader s version bytes s') : ∃ seeks reads, s.After seeks reads s' := by
  cases h with
  | intro hSeek hLead _ hRest =>
    exact ⟨_, _, ((Stream.After.of_seek hSeek).trans (.of_read hLead)).trans (.of_read hRest)⟩

theorem exists_after_of_parse {c : Container} (h : parse s = (.ok c, s')) :
    ∃ seeks reads, s.After seeks reads s' := by
  cases parse_eq_ok_iff.mp h with
  | intro hEnd hHeader _ hArray hSave hLoad =>
    obtain ⟨_, _, h₁⟩ := hHeader.exists_after
    obtain ⟨_, h₂⟩ := Stream.After.of_readRange hArray
    obtain ⟨_, h₃⟩ := Stream.After.of_readRange hSave
    obtain ⟨_, h₄⟩ := Stream.After.of_readRange hLoad
    exact ⟨_, _, ((((Stream.After.of_seekEnd hEnd).trans h₁).trans h₂).trans h₃).trans h₄⟩

/-- Reading a container leaves a stream of the same file, on which no call fails either. -/
theorem isFile_of_parse {file : ByteArray} {i : Nat} {c : Container} (h : s.IsFile file i)
    (hParse : parse s = (.ok c, s')) : s'.IsFile file s'.position := by
  obtain ⟨_, _, hAfter⟩ := exists_after_of_parse hParse
  exact h.after hAfter

theorem ReadsHeader.of_prolongs {version : UInt32} {bytes : Bytes Header.size}
    (hHeader : ReadsHeader s version bytes s') (h : t.Prolongs s more) :
    ∃ t', ReadsHeader t version bytes t' ∧ t'.Prolongs s' more := by
  cases hHeader with
  | intro hSeek hLead hVersion hRest =>
    -- Wherever the two streams stood, from here on they stand at the same place.
    obtain ⟨t₁, hSeek', h₁, hStart⟩ := h.seek hSeek 0
    obtain ⟨t₂, hLead', h₂, hBehind⟩ :=
      h₁.read (hStart.trans (Stream.position_of_seek hSeek).1.symm) hLead
    obtain ⟨t₃, hRest', h₃, _⟩ := h₂.read hBehind hRest
    exact ⟨t₃, .intro hSeek' hLead' hVersion hRest', h₃⟩

theorem parse_of_prolongs (h : t.Prolongs s more) {c : Container} (hParse : parse s = (.ok c, s')) :
    ∃ t', parse t = (.ok (c.lengthened more.size), t') ∧ t'.Prolongs s' more := by
  cases parse_eq_ok_iff.mp hParse with
  | intro hEnd hHeader hDecode hArray hSave hLoad =>
    obtain ⟨t₁, hEnd', h₁⟩ := h.seekEnd hEnd
    obtain ⟨t₂, hHeader', h₂⟩ := hHeader.of_prolongs h₁
    obtain ⟨t₃, hArray', h₃⟩ := h₂.readRange hArray
    obtain ⟨t₄, hSave', h₄⟩ := h₃.readRange hSave
    obtain ⟨t₅, hLoad', h₅⟩ := h₄.readRange hLoad
    exact ⟨t₅, parse_eq_ok_iff.mpr (.intro hEnd' hHeader' hDecode hArray' hSave' hLoad'), h₅⟩

theorem copyParts_of_prolongs {n : Nat} (parts : List FileRange) {memory staged : Bytes n}
    {cursor stop : Nat} (h : t.Prolongs s more)
    (hCopy : Staged.copyParts memory s cursor parts = some ⟨.ok stop, staged, s'⟩) :
    ∃ t', Staged.copyParts memory t cursor parts = some ⟨.ok stop, staged, t'⟩ ∧
      t'.Prolongs s' more := by
  induction parts generalizing s t memory cursor with
  | nil =>
    cases hCopy
    exact ⟨t, rfl, h⟩
  | cons part rest ih =>
    rw [Staged.copyParts] at hCopy ⊢
    by_cases hEmpty : part.size = 0
    · rw [if_pos hEmpty] at hCopy ⊢
      exact ih h hCopy
    rw [if_neg hEmpty] at hCopy ⊢
    rcases hRead : s.readAt part.offset.toNat part.size.toNat with ⟨_ | bytes, after⟩
    · rw [hRead] at hCopy
      cases hCopy
    · rw [hRead] at hCopy
      obtain ⟨t₁, hRead', h₁⟩ := h.readAt hRead
      obtain ⟨middle, hWrite, hCopy⟩ := Option.bind_eq_some_iff.mp hCopy
      obtain ⟨t', hCopy', hAfter⟩ := ih h₁ hCopy
      rw [hRead']
      exact ⟨t', Option.bind_eq_some_iff.mpr ⟨middle, hWrite, hCopy'⟩, hAfter⟩

theorem fill_of_prolongs {n : Nat} {c : Container} {p q : Placement} {memory staged : Bytes n}
    (h : t.Prolongs s more) (extra : Nat)
    (hFill : Staged.fill c p memory s = some ⟨.ok q, staged, s'⟩) :
    ∃ t', Staged.fill (c.lengthened extra) p memory t = some ⟨.ok q, staged, t'⟩ ∧
      t'.Prolongs s' more := by
  obtain ⟨topped, hTop, hFill⟩ := Option.bind_eq_some_iff.mp hFill
  obtain ⟨⟨result, copied, after⟩, hCopy, hFill⟩ := Option.bind_eq_some_iff.mp hFill
  cases result with
  | error cause => cases hFill
  | ok stop =>
    obtain ⟨cleared, hClear, hFill⟩ := Option.bind_eq_some_iff.mp hFill
    cases hFill
    obtain ⟨t', hCopy', hAfter⟩ := copyParts_of_prolongs c.executable.parts h hCopy
    refine ⟨t', ?_, hAfter⟩
    refine Option.bind_eq_some_iff.mpr ⟨topped, hTop, ?_⟩
    refine Option.bind_eq_some_iff.mpr ⟨_, hCopy', ?_⟩
    exact Option.bind_eq_some_iff.mpr ⟨staged, hClear, rfl⟩

theorem all_endsWithin_lengthened {c : Container} (extra : Nat)
    (h : c.executable.parts.all (·.endsWithin c.fileLength)) :
    (c.lengthened extra).executable.parts.all (·.endsWithin (c.lengthened extra).fileLength) := by
  rw [List.all_eq_true] at h ⊢
  intro part hPart
  have hEnd := of_decide_eq_true (h part hPart)
  exact decide_eq_true (Nat.le_add_right_of_le hEnd)

theorem stage_of_prolongs {c : Container} {size : UInt32} {memory staged : Bytes size.toNat}
    {p : Placement} (h : t.Prolongs s more) (extra : Nat)
    (hStage : c.stage memory s = some ⟨.ok p, staged, s'⟩) :
    ∃ t', (c.lengthened extra).stage memory t = some ⟨.ok p, staged, t'⟩ ∧
      t'.Prolongs s' more := by
  unfold stage at hStage ⊢
  split at hStage
  · cases hStage
  rename_i hLacks
  split at hStage
  · cases hStage
  rename_i placement hPlacement
  split at hStage
  · rename_i hWithin
    obtain ⟨t', hFill, hAfter⟩ := fill_of_prolongs h extra hStage
    have hLacks' : ¬ (c.lengthened extra).lacksLoadRoutine := hLacks
    have hPlacement' : Placement.compute (c.lengthened extra).executable
        (c.lengthened extra).rawHeader.size size = .ok placement := hPlacement
    refine ⟨t', ?_, hAfter⟩
    rw [if_neg hLacks', hPlacement']
    dsimp only
    rw [if_pos (all_endsWithin_lengthened extra hWithin)]
    exact hFill
  · cases hStage

/-- Bytes behind the end of a file change nothing it means: the container read of the longer file is the
same but for the file's length, and it is staged in the same places with the same bytes, into whichever
memory the shorter one can be. This is so on the streams that reading leaves and on any other. -/
theorem extension_keeps_meaning {file : ByteArray} {i j : Nat} {c : Container}
    (hs : s.IsFile file i) (ht : t.IsFile (file ++ more) j) (hParse : parse s = (.ok c, s')) :
    (∃ t', parse t = (.ok (c.lengthened more.size), t') ∧ s'.IsFile file s'.position ∧
        t'.IsFile (file ++ more) t'.position) ∧
      ∀ (u v u' : Stream) (k l : Nat) (size : UInt32) (memory staged : Bytes size.toNat)
        (p : Placement), u.IsFile file k → v.IsFile (file ++ more) l →
        c.stage memory u = some ⟨.ok p, staged, u'⟩ →
        ∃ v', (c.lengthened more.size).stage memory v = some ⟨.ok p, staged, v'⟩ := by
  constructor
  · obtain ⟨t', hParse', _⟩ := parse_of_prolongs (Stream.prolongs_of_isFile hs ht) hParse
    exact ⟨t', hParse', isFile_of_parse hs hParse, isFile_of_parse ht hParse'⟩
  · intro u v u' k l size memory staged p hu hv hStage
    obtain ⟨v', hStage', _⟩ :=
      stage_of_prolongs (Stream.prolongs_of_isFile hu hv) more.size hStage
    exact ⟨v', hStage'⟩

def trailer : ByteArray := ⟨#[0xDE, 0xAD, 0xBE]⟩

theorem sharing_parts_staged_of_longer_file :
    ∃ c s' t' p staged u' v', parse (.ofContent sharingFile) = (.ok c, s') ∧
      c.stage staleMemory s' = some ⟨.ok p, staged, u'⟩ ∧
      parse (.ofContent (sharingFile ++ trailer)) = (.ok (c.lengthened 3), t') ∧
      (c.lengthened 3).stage staleMemory t' = some ⟨.ok p, staged, v'⟩ := by
  obtain ⟨c, s', p, staged, u', hParse, hStage⟩ := exists_staged_sharingFile
  obtain ⟨⟨t', hParse', hLeft, hLeft'⟩, hStaged⟩ := extension_keeps_meaning
    (Stream.isFile_ofContent sharingFile) (Stream.isFile_ofContent (sharingFile ++ trailer)) hParse
  obtain ⟨v', hStage'⟩ := hStaged _ _ u' _ _ _ staleMemory staged p hLeft hLeft' hStage
  exact ⟨c, s', t', p, staged, u', v', hParse, hStage, hParse', hStage'⟩

end Container
end GuestPlugin
