import GuestPlugin.Host.Program

/-! # The hook at a guest's entry

Two words at the entry are replaced by a jump through the second of them, which holds the address of
the trampoline. The page they begin in is visible to the host only while they are exchanged. Whether
both words lie in that page is up to the address.
-/

set_option autoImplicit false

namespace GuestPlugin

/-- Jump to the address in the next word: `ldr pc, [pc, #-4]`. -/
def branchToNextWord : UInt32 := 0xE51FF004

structure EntryWords where
  first : UInt32
  second : UInt32
deriving DecidableEq

structure SavedEntry where
  address : UInt32
  words : EntryWords
deriving DecidableEq

namespace EntryHook

open Program (ask)

def pageOf (address : UInt32) : UInt32 := address &&& ~~~(pageSize - 1)

/-- Performs `body` while the page of `address` is visible, or nothing if it cannot be made so. -/
def withPage {α : Type} (guest : Guest) (address : UInt32) (body : Program α) :
    Program (Except ResultCode α) := do
  match ← ask (.mapGuest guest (pageOf address) pageSize) with
  | .error code => return .error code
  | .ok () =>
    let a ← body
    ask (.unmapGuest (pageOf address) pageSize)
    return .ok a

def readWords (address : UInt32) : Program EntryWords := do
  let first ← ask (.readWord address)
  let second ← ask (.readWord (address + 4))
  return ⟨first, second⟩

def writeWords (address : UInt32) (words : EntryWords) : Program Unit := do
  ask (.writeWord address words.first)
  ask (.writeWord (address + 4) words.second)
  ask .flush

/-- Makes the guest branch to `trampoline` and returns what stood at its entry. -/
def install (guest : Guest) (address trampoline : UInt32) :
    Program (Except ResultCode SavedEntry) :=
  withPage guest address do
    let words ← readWords address
    writeWords address ⟨branchToNextWord, trampoline⟩
    return ⟨address, words⟩

def restore (guest : Guest) (saved : SavedEntry) : Program (Except ResultCode Unit) :=
  withPage guest saved.address (writeWords saved.address saved.words)

end EntryHook
end GuestPlugin
