import GuestPlugin.Bytes

/-! # Overwriting a stretch of bytes

A write inside a memory is a splice of its list of bytes. Two splices one behind the other are one, and
each leaves what lies before and behind it; with these laws no write has to be opened again.
-/

set_option autoImplicit false

namespace GuestPlugin.Bytes

/-- The list with the elements from `start` on replaced by those of `middle`. -/
def splice (l : List UInt8) (start : Nat) (middle : List UInt8) : List UInt8 :=
  l.take start ++ middle ++ l.drop (start + middle.length)

variable {l middle : List UInt8} {start : Nat}

theorem length_splice (h : start + middle.length ≤ l.length) :
    (splice l start middle).length = l.length := by
  simp only [splice, List.length_append, List.length_take, List.length_drop]
  omega

@[simp] theorem splice_nil : splice l start [] = l := by
  simp [splice]

/-- Nothing is left behind a splice that reaches to the end. -/
theorem splice_of_length_le (h : l.length ≤ start + middle.length) :
    splice l start middle = l.take start ++ middle := by
  rw [splice, List.drop_eq_nil_of_le h, List.append_nil]

theorem take_splice (h : start ≤ l.length) :
    (splice l start middle).take (start + middle.length) = l.take start ++ middle := by
  have hLength : (l.take start ++ middle).length = start + middle.length := by
    rw [List.length_append, List.length_take_of_le h]
  rw [splice, ← hLength, List.take_left]

theorem drop_splice {count : Nat} (hCount : start + middle.length ≤ count) (h : start ≤ l.length) :
    (splice l start middle).drop count = l.drop count := by
  have hLength : (l.take start ++ middle).length = start + middle.length := by
    rw [List.length_append, List.length_take_of_le h]
  rw [splice, List.drop_append, hLength, List.drop_eq_nil_of_le (by rw [hLength]; exact hCount),
    List.nil_append, List.drop_drop]
  congr 1
  omega

theorem drop_splice_self (h : start ≤ l.length) :
    (splice l start middle).drop start = middle ++ l.drop (start + middle.length) := by
  have hLength : (l.take start).length = start := List.length_take_of_le h
  rw [splice, List.append_assoc, List.drop_left' hLength]

theorem take_splice_of_le {count : Nat} (hCount : count ≤ start) (h : start ≤ l.length) :
    (splice l start middle).take count = l.take count := by
  rw [splice, List.append_assoc, List.take_append_of_le_length (by rwa [List.length_take_of_le h]),
    List.take_take, Nat.min_eq_left hCount]

theorem drop_splice_of_le {count : Nat} (hCount : count ≤ start) (h : start ≤ l.length) :
    (splice l start middle).drop count =
      (l.drop count).take (start - count) ++ middle ++ l.drop (start + middle.length) := by
  rw [splice, List.append_assoc, List.drop_append_of_le_length (by rwa [List.length_take_of_le h]),
    List.drop_take, List.append_assoc]

theorem splice_splice {next : List UInt8} (h : start ≤ l.length) :
    splice (splice l start middle) (start + middle.length) next = splice l start (middle ++ next) := by
  rw [splice, take_splice h, drop_splice (Nat.le_add_right _ _) h, splice, List.length_append,
    ← Nat.add_assoc, List.append_assoc (l.take start)]

theorem getElem?_splice_of_outside {i : Nat}
    (hFits : start + middle.length ≤ l.length) (h : ¬ (start ≤ i ∧ i < start + middle.length)) :
    (splice l start middle)[i]? = l[i]? := by
  have hFront : (l.take start ++ middle).length = start + middle.length := by
    rw [List.length_append, List.length_take_of_le (by omega)]
  rcases Nat.lt_or_ge i start with hBefore | hFrom
  · rw [splice, List.append_assoc, List.getElem?_append_left (by rw [List.length_take]; omega),
      List.getElem?_take_of_lt hBefore]
  · rw [splice, List.getElem?_append_right (by omega), hFront, List.getElem?_drop]
    congr 1
    omega

theorem getElem?_splice_of_inside {i : Nat} (hStart : start ≤ l.length)
    (h : start ≤ i ∧ i < start + middle.length) : (splice l start middle)[i]? = middle[i - start]? := by
  have hIndex : start + (i - start) = i := by omega
  rw [← hIndex, ← List.getElem?_drop, drop_splice_self hStart, hIndex,
    List.getElem?_append_left (by omega)]

theorem toList_write?_splice {n : Nat} {b b' : Bytes n} {source : ByteArray}
    (h : b.write? start source = some b') :
    b'.toList = splice b.toList start source.data.toList := toList_write? h

theorem exists_write? {n : Nat} (b : Bytes n) (source : ByteArray) (h : start + source.size ≤ n) :
    ∃ b', b.write? start source = some b' :=
  Option.isSome_iff_exists.mp ((b.write?_isSome_iff start source).mpr h)

theorem exists_writeTail? {n : Nat} (b : Bytes n) (source : ByteArray)
    (h : start + source.size = n) :
    ∃ b', b.writeTail? start source = some b' ∧
      b'.toList = splice b.toList start source.data.toList := by
  obtain ⟨b', hWrite⟩ := b.exists_write? source (show start + source.size ≤ n by omega)
  exact ⟨b', by rw [writeTail?, if_pos h, hWrite], toList_write?_splice hWrite⟩

theorem exists_clear? {n stop : Nat} (b : Bytes n) (hStart : start ≤ stop) (hStop : stop ≤ n) :
    ∃ b', b.clear? start stop = some b' ∧
      b'.toList = splice b.toList start (List.replicate (stop - start) 0) := by
  have hFits : start + (replicate (stop - start) 0).toByteArray.size ≤ n := by
    rw [size_toByteArray]
    omega
  obtain ⟨b', hWrite⟩ := b.exists_write? _ hFits
  refine ⟨b', by rw [clear?, if_pos hStart, hWrite], ?_⟩
  have hZeros : (replicate (stop - start) 0).toByteArray.data.toList =
      List.replicate (stop - start) 0 := toList_replicate _ _
  rw [toList_write?_splice hWrite, hZeros]

end GuestPlugin.Bytes
