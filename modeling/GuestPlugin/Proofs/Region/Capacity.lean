import GuestPlugin.Proofs.Region.Placement

/-! # What a region has room for

An executable is placed exactly if its image and the raw header above it fit into the region together, and
where it is placed is then a matter of plain addition. Computed in machine words, with every subtraction and
every narrowing checked, the answer is the same: behind the comparison with the region no number is too wide.
-/

set_option autoImplicit false

namespace GuestPlugin

/-- The size of an image in numbers that do not wrap. -/
def Executable.imageExtent (e : Executable) : Nat :=
  (Placement.partsStart + e.extent + (0x1000 - 1)) / 0x1000 * 0x1000

namespace Placement

/-- An image of this size at the bottom of a region, and a raw header at its very top. -/
def spanning (image rawHeaderSize : Nat) (regionSize : UInt32) : Placement :=
  ⟨regionSize, image.toUInt32, (regionSize.toNat - rawHeaderSize).toUInt32⟩

theorem toNat_toUInt32_of_le {n : Nat} (bound : UInt32) (h : n ≤ bound.toNat) :
    n.toUInt32.toNat = n :=
  UInt32.toNat_ofNat_of_lt' (Nat.lt_of_le_of_lt h bound.toNat_lt)

theorem toUInt32_eq_of_toNat {n : UInt64} {m : Nat} (h : n.toNat = m) :
    n.toUInt32 = m.toUInt32 := by
  rw [← h, Nat.toUInt32_eq, ← UInt64.toUInt32_ofNat', UInt64.ofNat_toNat]

theorem toNat_saturate (size : UInt64) : (saturate size).toNat = min size.toNat (2 ^ 32 - 1) := by
  have hSize : UInt32.size = 2 ^ 32 := rfl
  rw [saturate, hSize]
  split
  · rw [UInt64.toNat_toUInt32]
    omega
  · have hLargest : (0xFFFFFFFF : UInt32).toNat = 2 ^ 32 - 1 := rfl
    rw [hLargest]
    omega

theorem saturate_imageSizeOf (e : Executable) :
    saturate (imageSizeOf e) = (min e.imageExtent (2 ^ 32 - 1)).toUInt32 := by
  have hLargest : (0xFFFFFFFF : UInt32).toNat = 2 ^ 32 - 1 := rfl
  apply UInt32.toNat_inj.mp
  rw [toNat_saturate, toNat_imageSizeOf, ← Executable.imageExtent,
    toNat_toUInt32_of_le 0xFFFFFFFF (by rw [hLargest]; omega)]

/-- What is granted and what is refused, in numbers. -/
theorem compute_eq (e : Executable) (rawHeaderSize : Nat) (regionSize : UInt32) :
    compute e rawHeaderSize regionSize =
      if e.imageExtent + rawHeaderSize ≤ regionSize.toNat then
        .ok (spanning e.imageExtent rawHeaderSize regionSize)
      else .error (.tooLarge (min e.imageExtent (2 ^ 32 - 1)).toUInt32 regionSize) := by
  have hImage : (imageSizeOf e).toNat = e.imageExtent := toNat_imageSizeOf e
  rw [compute, saturate_imageSizeOf, hImage]
  split
  · rename_i hRoom
    have hStart : regionSize - rawHeaderSize.toUInt32 =
        (regionSize.toNat - rawHeaderSize).toUInt32 := by
      have hHeader := toNat_toUInt32_of_le regionSize (show rawHeaderSize ≤ _ by omega)
      apply UInt32.toNat_inj.mp
      rw [UInt32.toNat_sub_of_le _ _ (by rw [UInt32.le_iff_toNat_le]; omega), hHeader,
        toNat_toUInt32_of_le regionSize (by omega)]
    rw [spanning, toUInt32_eq_of_toNat hImage, hStart]
  · rfl

theorem fits_spanning {e : Executable} {rawHeaderSize : Nat} {regionSize : UInt32}
    (h : e.imageExtent + rawHeaderSize ≤ regionSize.toNat) :
    (spanning e.imageExtent rawHeaderSize regionSize).Fits e rawHeaderSize regionSize :=
  fits_of_compute (by rw [compute_eq, if_pos h])

/-! ## The same in machine words -/

/-- A number in 32 bits, if it is not too wide. -/
def narrow? (n : UInt64) : Option UInt32 :=
  if n.toNat < UInt32.size then some n.toUInt32 else none

/-- A difference, if it does not fall below zero. -/
def difference? (a b : UInt64) : Option UInt64 :=
  if b ≤ a then some (a - b) else none

/-- Where a raw header begins that ends with the region, if that is not inside the image. -/
def headerStart? (imageSize rawHeaderSize : UInt64) (regionSize : UInt32) : Option UInt64 :=
  (difference? regionSize.toUInt64 rawHeaderSize).filter (imageSize ≤ ·)

/-- A placement computed one checked step behind the other. -/
def computeInWords (e : Executable) (rawHeaderSize : UInt64) (regionSize : UInt32) :
    Except ImageError Placement :=
  let imageSize := imageSizeOf e
  let tooLarge := ImageError.tooLarge ((narrow? imageSize).getD 0xFFFFFFFF) regionSize
  match headerStart? imageSize rawHeaderSize regionSize with
  | none => .error tooLarge
  | some start =>
    match narrow? imageSize with
    | none => .error tooLarge
    | some imageSize =>
      match narrow? start with
      | none => .error tooLarge
      | some start => .ok ⟨regionSize, imageSize, start⟩

theorem narrow?_getD (n : UInt64) : (narrow? n).getD 0xFFFFFFFF = saturate n := by
  rw [narrow?, saturate]
  split <;> rfl

theorem narrow?_of_le {n : UInt64} (bound : UInt32) (h : n.toNat ≤ bound.toNat) :
    narrow? n = some n.toUInt32 := by
  have hBound : bound.toNat < UInt32.size := bound.toNat_lt
  rw [narrow?, if_pos (by omega)]

theorem difference?_eq_some_iff {a b c : UInt64} :
    difference? a b = some c ↔ c.toNat + b.toNat = a.toNat := by
  rw [difference?]
  split
  · rename_i hBelow
    have hBelow' := UInt64.le_iff_toNat_le.mp hBelow
    rw [Option.some_inj, ← UInt64.toNat_inj, UInt64.toNat_sub_of_le _ _ hBelow]
    omega
  · rename_i hAbove
    rw [UInt64.le_iff_toNat_le] at hAbove
    simp only [reduceCtorEq, false_iff]
    omega

theorem headerStart?_eq_some_iff {imageSize rawHeaderSize start : UInt64} {regionSize : UInt32} :
    headerStart? imageSize rawHeaderSize regionSize = some start ↔
      start.toNat + rawHeaderSize.toNat = regionSize.toNat ∧ imageSize.toNat ≤ start.toNat := by
  simp [headerStart?, Option.filter_eq_some_iff, difference?_eq_some_iff, UInt64.le_iff_toNat_le]

theorem exists_headerStart?_iff (imageSize rawHeaderSize : UInt64) (regionSize : UInt32) :
    (∃ start, headerStart? imageSize rawHeaderSize regionSize = some start) ↔
      imageSize.toNat + rawHeaderSize.toNat ≤ regionSize.toNat := by
  have hRegion := regionSize.toNat_lt
  constructor
  · rintro ⟨start, hStart⟩
    obtain ⟨hHeader, hBelow⟩ := headerStart?_eq_some_iff.mp hStart
    omega
  · intro hRoom
    have hStart : (regionSize.toNat - rawHeaderSize.toNat).toUInt64.toNat =
        regionSize.toNat - rawHeaderSize.toNat :=
      UInt64.toNat_ofNat_of_lt' (by simp only [UInt64.size]; omega)
    exact ⟨_, headerStart?_eq_some_iff.mpr ⟨by rw [hStart]; omega, by rw [hStart]; omega⟩⟩

/-- Behind the comparison with the region, no narrowing can fail. -/
theorem narrow?_of_headerStart? {imageSize rawHeaderSize start : UInt64} {regionSize : UInt32}
    (h : headerStart? imageSize rawHeaderSize regionSize = some start) :
    narrow? imageSize = some imageSize.toUInt32 ∧ narrow? start = some start.toUInt32 := by
  obtain ⟨hHeader, hBelow⟩ := headerStart?_eq_some_iff.mp h
  constructor
  · exact narrow?_of_le regionSize (by omega)
  · exact narrow?_of_le regionSize (by omega)

theorem computeInWords_eq (e : Executable) (rawHeaderSize : UInt64) (regionSize : UInt32) :
    computeInWords e rawHeaderSize regionSize = compute e rawHeaderSize.toNat regionSize := by
  have hImage : (imageSizeOf e).toNat = e.imageExtent := toNat_imageSizeOf e
  have hRoom := exists_headerStart?_iff (imageSizeOf e) rawHeaderSize regionSize
  rw [hImage] at hRoom
  rw [computeInWords, compute_eq, narrow?_getD, saturate_imageSizeOf]
  rcases hStart : headerStart? (imageSizeOf e) rawHeaderSize regionSize with _ | start
  · rw [if_neg]
    rw [← hRoom, hStart]
    rintro ⟨start, hSome⟩
    cases hSome
  · obtain ⟨hHeader, _⟩ := headerStart?_eq_some_iff.mp hStart
    obtain ⟨hNarrowImage, hNarrowStart⟩ := narrow?_of_headerStart? hStart
    have hNarrowed : start.toUInt32 = (regionSize.toNat - rawHeaderSize.toNat).toUInt32 :=
      toUInt32_eq_of_toNat (by omega)
    rw [if_pos (hRoom.mp ⟨start, hStart⟩), spanning, ← toUInt32_eq_of_toNat hImage, ← hNarrowed]
    simp only [hNarrowImage, hNarrowStart]

/-- A placement is granted exactly if image and raw header fit into the region together, and then it is
exact; a refusal states the size of the image as far as 32 bits can. Nothing wraps, and the checks that
machine words ask for never decide. -/
theorem compute_exact (e : Executable) (rawHeaderSize : Nat) (regionSize : UInt32) :
    ∃ image : Nat,
      IsLeast {m | 0x1000 ∣ m ∧ 0xA0 + e.code.size.toNat + e.rodata.size.toNat + e.data.size.toNat +
        e.bssSize.toNat ≤ m} image ∧
      (imageSizeOf e).toNat = image ∧
      ((∃ p, compute e rawHeaderSize regionSize = .ok p) ↔
        image + rawHeaderSize ≤ regionSize.toNat) ∧
      (∀ p, compute e rawHeaderSize regionSize = .ok p →
        p.regionSize = regionSize ∧ p.imageSize.toNat = image ∧
        p.heapSize.toNat + image = regionSize.toNat ∧
        p.rawHeaderStart.toNat + rawHeaderSize = regionSize.toNat ∧ image ≤ p.rawHeaderStart.toNat) ∧
      (∀ cause, compute e rawHeaderSize regionSize = .error cause →
        ∃ stated : UInt32, stated.toNat = min image (2 ^ 32 - 1) ∧
          cause = .tooLarge stated regionSize) ∧
      ∀ staged : UInt64, computeInWords e staged regionSize = compute e staged.toNat regionSize ∧
        ∀ start, headerStart? (imageSizeOf e) staged regionSize = some start →
          (narrow? (imageSizeOf e)).isSome ∧ (narrow? start).isSome := by
  have hImage : (imageSizeOf e).toNat = e.imageExtent := toNat_imageSizeOf e
  refine ⟨e.imageExtent, ?_, hImage, ?_, ?_, ?_, ?_⟩
  · rw [← partsStart_add_extent, ← hImage]
    exact imageSizeOf_isLeast e
  · rw [compute_eq]
    split <;> simp_all
  · intro p h
    have hFits := fits_of_compute h
    have hHeap := hFits.toNat_heapSize
    have hInside := hFits.image_le
    have hBelow := hFits.below
    have hSize := hFits.image
    exact ⟨hFits.region, by omega, by omega, hFits.header, by omega⟩
  · intro cause h
    rw [compute_eq] at h
    split at h
    · cases h
    · cases h
      exact ⟨_, by rw [← saturate_imageSizeOf, toNat_saturate, hImage], rfl⟩
  · intro staged
    refine ⟨computeInWords_eq e staged regionSize, ?_⟩
    intro start h
    obtain ⟨hNarrowImage, hNarrowStart⟩ := narrow?_of_headerStart? h
    simp [hNarrowImage, hNarrowStart]

end Placement
end GuestPlugin
