import GuestPlugin.Bytes

/-! # The control block

Forty little-endian words at the base of the region, from which the plugin runtime learns its heap,
its channels and the operator's configuration. The reader takes any non-zero default-plugin word for
true, while the writer only writes zero or one.
-/

set_option autoImplicit false

namespace GuestPlugin

/-- Configuration words handed to the plugin. -/
abbrev ConfigWords := Vector UInt32 32

structure ControlBlock where
  magic : UInt32
  version : UInt32
  heapAddress : UInt32
  heapSize : UInt32
  imageSize : UInt32
  isDefault : Bool
  eventChannel : UInt32
  replyChannel : UInt32
  config : ConfigWords
deriving DecidableEq

namespace ControlBlock

abbrev size : Nat := 0xA0

/-- The word that is stored as the letters `PLGH`. -/
def pluginMagic : UInt32 := 0x48474C50

def words (b : ControlBlock) : List UInt32 :=
  [b.magic, b.version, b.heapAddress, b.heapSize, b.imageSize, if b.isDefault then 1 else 0,
    b.eventChannel, b.replyChannel] ++ b.config.toList

def encode (b : ControlBlock) : List UInt8 := LittleEndian.encodeWords b.words

theorem length_encode (b : ControlBlock) : b.encode.length = size := by
  simp [encode, words]

def decode (b : Bytes size) : ControlBlock where
  magic := b.word 0x00 (by decide)
  version := b.word 0x04 (by decide)
  heapAddress := b.word 0x08 (by decide)
  heapSize := b.word 0x0C (by decide)
  imageSize := b.word 0x10 (by decide)
  isDefault := b.word 0x14 (by decide) != 0
  eventChannel := b.word 0x18 (by decide)
  replyChannel := b.word 0x1C (by decide)
  config := Vector.ofFn fun i => b.word (0x20 + 4 * i.val) (by have := i.isLt; simp only [size]; omega)

/-- The control block at the base of a memory, if there is room for one and it has the magic. -/
def read? {n : Nat} (memory : Bytes n) : Option ControlBlock :=
  if h : 0 + size ≤ n then
    let block := decode (memory.slice 0 size h)
    if block.magic = pluginMagic then some block else none
  else none

def write? {n : Nat} (b : ControlBlock) (memory : Bytes n) : Option (Bytes n) :=
  memory.write? 0 b.encode.toByteArray

/-- Makes a memory that holds an image ready for the guest: the control block goes to its base and
everything above the image is cleared. -/
def prepare? {n : Nat} (b : ControlBlock) (memory : Bytes n) : Option (Bytes n) := do
  let memory ← b.write? memory
  memory.clear? b.imageSize.toNat n

end ControlBlock
end GuestPlugin
