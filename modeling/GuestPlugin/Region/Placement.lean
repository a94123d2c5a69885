import GuestPlugin.Container
import GuestPlugin.Region
import GuestPlugin.Region.ControlBlock

/-! # Where everything lies in a region

The low end holds the control block, the three parts of the executable, its bss, and padding up to a
page: the image. The container's raw header is staged at the very top. Both fit, or nothing is placed;
what lies above the image is the heap, the staged header included.
-/

set_option autoImplicit false

namespace GuestPlugin

/-- Rounds up to a multiple of `align`, a power of two. One is taken off the sum of the two, which therefore
has to fit into 64 bits itself. -/
def alignUp (value align : UInt64) (_fits : value.toNat + align.toNat < UInt64.size) : UInt64 :=
  (value + align - 1) &&& ~~~(align - 1)

/-- The same with every step checked. -/
def alignUp? (value align : UInt64) : Option UInt64 :=
  if h : align ≠ 0 ∧ value.toNat + align.toNat < UInt64.size then some (alignUp value align h.2)
  else none

structure Placement where
  regionSize : UInt32
  imageSize : UInt32
  rawHeaderStart : UInt32
deriving DecidableEq

namespace Placement

def heapSize (p : Placement) : UInt32 := p.regionSize - p.imageSize

/-- Offset of the first byte of the executable. -/
def partsStart : Nat := ControlBlock.size

theorem loadedSize_fits (e : Executable) :
    (partsStart.toUInt64 + e.loadedSize).toNat + pageSize.toUInt64.toNat < UInt64.size := by
  have hCode := e.code.size.toNat_lt
  have hRodata := e.rodata.size.toNat_lt
  have hData := e.data.size.toNat_lt
  have hBss := e.bssSize.toNat_lt
  have hStart : partsStart.toUInt64.toNat = 0xA0 := rfl
  have hPage : pageSize.toUInt64.toNat = 0x1000 := rfl
  have hSize : UInt64.size = 0x10000000000000000 := rfl
  simp only [Executable.loadedSize, Executable.fileSize, UInt64.toNat_add, UInt32.toNat_toUInt64,
    hStart, hPage, hSize]
  omega

def imageSizeOf (e : Executable) : UInt64 :=
  alignUp (partsStart.toUInt64 + e.loadedSize) pageSize.toUInt64 (loadedSize_fits e)

/-- A size as far as 32 bits can state it. -/
def saturate (size : UInt64) : UInt32 :=
  if size.toNat < UInt32.size then size.toUInt32 else 0xFFFFFFFF

def compute (e : Executable) (rawHeaderSize : Nat) (regionSize : UInt32) :
    Except ImageError Placement :=
  let imageSize := imageSizeOf e
  if imageSize.toNat + rawHeaderSize ≤ regionSize.toNat then
    .ok ⟨regionSize, imageSize.toUInt32, regionSize - rawHeaderSize.toUInt32⟩
  else .error (.tooLarge (saturate imageSize) regionSize)

end Placement
end GuestPlugin
