import GuestPlugin.Proofs.Region.Alignment

/-! # The bounds of an image

All four sizes of an executable are below 2^32, so nothing wraps when they are added in 64 bits, and a
placement that is granted is exact: image, heap and staged header are where `Nat` would put them.
-/

set_option autoImplicit false

namespace GuestPlugin

def Executable.extent (e : Executable) : Nat :=
  e.code.size.toNat + e.rodata.size.toNat + e.data.size.toNat + e.bssSize.toNat

theorem Executable.toNat_loadedSize (e : Executable) : e.loadedSize.toNat = e.extent := by
  have hCode := e.code.size.toNat_lt
  have hRodata := e.rodata.size.toNat_lt
  have hData := e.data.size.toNat_lt
  have hBss := e.bssSize.toNat_lt
  simp only [loadedSize, fileSize, extent, UInt64.toNat_add, UInt32.toNat_toUInt64]
  omega

theorem Executable.extent_lt (e : Executable) : e.extent < 2 ^ 34 := by
  have hCode := e.code.size.toNat_lt
  have hRodata := e.rodata.size.toNat_lt
  have hData := e.data.size.toNat_lt
  have hBss := e.bssSize.toNat_lt
  unfold extent
  omega

namespace Placement

theorem partsStart_add_extent (e : Executable) :
    partsStart + e.extent = 0xA0 + e.code.size.toNat + e.rodata.size.toNat + e.data.size.toNat +
      e.bssSize.toNat := by
  simp only [partsStart, ControlBlock.size, Executable.extent]
  omega

theorem toNat_imageSizeOf (e : Executable) :
    (imageSizeOf e).toNat = (partsStart + e.extent + (0x1000 - 1)) / 0x1000 * 0x1000 := by
  have hExtent := e.extent_lt
  have hStart : partsStart = 0xA0 := rfl
  have hWord : partsStart.toUInt64.toNat = partsStart := rfl
  have hSum : (partsStart.toUInt64 + e.loadedSize).toNat = partsStart + e.extent := by
    rw [UInt64.toNat_add, e.toNat_loadedSize, hWord]
    omega
  have hPage : 2 ^ 12 = 0x1000 := rfl
  rw [imageSizeOf, toNat_alignUp (k := 12) rfl (loadedSize_fits e), hSum, hPage]

theorem imageSizeOf_isLeast (e : Executable) :
    IsLeast {m | 0x1000 ∣ m ∧ partsStart + e.extent ≤ m} (imageSizeOf e).toNat := by
  rw [toNat_imageSizeOf]
  exact isLeast_roundUp (by decide)

/-- What a granted placement amounts to, in numbers that do not wrap. -/
structure Fits (p : Placement) (e : Executable) (rawHeaderSize : Nat) (regionSize : UInt32) :
    Prop where
  region : p.regionSize = regionSize
  image : p.imageSize.toNat = (imageSizeOf e).toNat
  header : p.rawHeaderStart.toNat + rawHeaderSize = regionSize.toNat
  below : p.imageSize.toNat ≤ p.rawHeaderStart.toNat

theorem fits_of_compute {e : Executable} {rawHeaderSize : Nat} {regionSize : UInt32}
    {p : Placement} (h : compute e rawHeaderSize regionSize = .ok p) :
    p.Fits e rawHeaderSize regionSize := by
  have hRegion := regionSize.toNat_lt
  rw [compute] at h
  by_cases hRoom : (imageSizeOf e).toNat + rawHeaderSize ≤ regionSize.toNat
  · rw [if_pos hRoom] at h
    cases h
    have hImage : (imageSizeOf e).toUInt32.toNat = (imageSizeOf e).toNat := by
      rw [UInt64.toNat_toUInt32]
      omega
    have hRaw : rawHeaderSize.toUInt32.toNat = rawHeaderSize := by
      rw [UInt32.toNat_ofNat']
      omega
    have hStart : (regionSize - rawHeaderSize.toUInt32).toNat =
        regionSize.toNat - rawHeaderSize := by
      rw [UInt32.toNat_sub_of_le _ _ (by rw [UInt32.le_iff_toNat_le, hRaw]; omega), hRaw]
    exact ⟨rfl, hImage, by simp only [hStart]; omega, by simp only [hImage, hStart]; omega⟩
  · rw [if_neg hRoom] at h
    cases h

namespace Fits

variable {p : Placement} {e : Executable} {rawHeaderSize : Nat} {regionSize : UInt32}

theorem parts_le (h : p.Fits e rawHeaderSize regionSize) :
    partsStart + e.extent ≤ p.imageSize.toNat := by
  rw [h.image]
  exact (imageSizeOf_isLeast e).1.2

theorem image_le (h : p.Fits e rawHeaderSize regionSize) :
    p.imageSize.toNat ≤ regionSize.toNat := by
  have hBelow := h.below
  have hHeader := h.header
  omega

theorem toNat_heapSize (h : p.Fits e rawHeaderSize regionSize) :
    p.heapSize.toNat = regionSize.toNat - p.imageSize.toNat := by
  rw [heapSize, h.region]
  exact UInt32.toNat_sub_of_le _ _ h.image_le

end Fits
end Placement
end GuestPlugin
