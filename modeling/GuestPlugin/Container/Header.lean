import GuestPlugin.Container
import GuestPlugin.Text.Utf8

/-! # The fixed header

All numbers are little-endian, both texts are padded with NUL.

| offset | field |
|---|---|
| `0x00` | magic, then the format version |
| `0x08` | compatibility, homebrew allowed, tier, events self-managed, private memory, swap not needed |
| `0x10` | title, 32 bytes |
| `0x30` | author, 32 bytes |
| `0x50` | checksum |
| `0x54` | number of targets and offset of the target array |
| `0x5C` | offsets of code, rodata and data, then their sizes and that of the bss |
| `0x78` | save payload, then load payload, each as offset and size |

A field is read at its own offset, so the order of the checks is the only thing that is sequential.
-/

set_option autoImplicit false

namespace GuestPlugin

namespace Header

def magic : List UInt8 := "3GX$".toUTF8.data.toList

def oldestVersion : UInt32 := 2

def newestVersion : UInt32 := 2

/-- Length of the part that is read first and decides whether the rest is read at all. -/
abbrev leadSize : Nat := 8

abbrev size : Nat := 0x88

/-- The version a lead names, if this loader reads it. -/
def checkLead (lead : Bytes leadSize) : Except FormatError UInt32 :=
  let version := lead.word 4 (by decide)
  if (lead.slice 0 4 (by decide)).toList ≠ magic then .error .badMagic
  else if version < oldestVersion then .error (.pluginTooOld version)
  else if newestVersion < version then .error (.loaderTooOld version)
  else .ok version

/-- The text of a padded field: what stands before its first NUL. -/
def text (field : List UInt8) : String := Utf8.decodeLossy (field.takeWhile (· ≠ 0)).toByteArray

end Header

structure Header where
  manifest : Manifest
  targetCount : UInt32
  targetOffset : UInt32
  executable : Executable
  save : FileRange
  load : FileRange
deriving DecidableEq

def Header.decode (b : Bytes Header.size) : Except FormatError Header := do
  let compatibility ← Compatibility.ofByte (b.get 0x08 (by decide))
  let tier ← Tier.ofByte (b.get 0x0A (by decide))
  return {
    manifest := {
      compatibility
      allowsHomebrew := b.get 0x09 (by decide) != 0
      tier
      managesEvents := b.get 0x0B (by decide) != 0
      privateMemory := b.get 0x0C (by decide) != 0
      swapNotNeeded := b.get 0x0D (by decide) != 0
      title := text (b.slice 0x10 32 (by decide)).toList
      author := text (b.slice 0x30 32 (by decide)).toList
      checksum := b.word 0x50 (by decide) }
    targetCount := b.word 0x54 (by decide)
    targetOffset := b.word 0x58 (by decide)
    executable := {
      code := ⟨b.word 0x5C (by decide), b.word 0x68 (by decide)⟩
      rodata := ⟨b.word 0x60 (by decide), b.word 0x6C (by decide)⟩
      data := ⟨b.word 0x64 (by decide), b.word 0x70 (by decide)⟩
      bssSize := b.word 0x74 (by decide) }
    save := ⟨b.word 0x78 (by decide), b.word 0x7C (by decide)⟩
    load := ⟨b.word 0x80 (by decide), b.word 0x84 (by decide)⟩ }

end GuestPlugin
