import GuestPlugin.Region.Tier
import GuestPlugin.Storage.Stream

/-! # Plugin containers

What a container says about its plugin once its header has been read: who may run it, which memory
it asks for, and where the parts of its executable lie in the file. The parts themselves stay in the
file; only the targets and the two payloads are held here.
-/

set_option autoImplicit false

namespace GuestPlugin

inductive Compatibility where
  | normal
  | emulatorOnly
deriving DecidableEq

def Compatibility.ofByte (byte : UInt8) : Except FormatError Compatibility :=
  if byte = 0 then .ok .normal
  else if byte = 1 then .ok .emulatorOnly
  else .error (.invalidField "compatibility")

structure Manifest where
  compatibility : Compatibility
  allowsHomebrew : Bool
  tier : Tier
  managesEvents : Bool
  privateMemory : Bool
  swapNotNeeded : Bool
  title : String
  author : String
  checksum : UInt32
deriving DecidableEq

structure FileRange where
  offset : UInt32
  size : UInt32
deriving DecidableEq

/-- Whether a range ends within a file of the given length. An empty range has to as well. -/
def FileRange.endsWithin (range : FileRange) (length : Nat) : Bool :=
  range.offset.toNat + range.size.toNat ≤ length

/-- The executable: three parts copied from the file and zeroed memory behind them. -/
structure Executable where
  code : FileRange
  rodata : FileRange
  data : FileRange
  bssSize : UInt32
deriving DecidableEq

namespace Executable

/-- The parts copied from the file, in load order. -/
def parts (e : Executable) : List FileRange := [e.code, e.rodata, e.data]

def fileSize (e : Executable) : UInt64 :=
  e.code.size.toUInt64 + e.rodata.size.toUInt64 + e.data.size.toUInt64

def loadedSize (e : Executable) : UInt64 := e.fileSize + e.bssSize.toUInt64

end Executable

/-- The titles a plugin attaches to. -/
inductive Targets where
  | every
  | only (first : TitleId) (others : List TitleId)
deriving DecidableEq

namespace Targets

/-- A list that names no title admits every one. -/
def ofList : List TitleId → Targets
  | [] => .every
  | first :: others => .only first others

def toList : Targets → List TitleId
  | .every => []
  | .only first others => first :: others

@[simp] theorem toList_ofList (l : List TitleId) : (ofList l).toList = l := by
  cases l <;> rfl

@[simp] theorem ofList_toList (t : Targets) : ofList t.toList = t := by
  cases t <;> rfl

def admits (t : Targets) (title : TitleId) : Bool := t.toList.isEmpty || t.toList.contains title

theorem admits_iff (t : Targets) (title : TitleId) :
    t.admits title = true ↔ t = .every ∨ title ∈ t.toList := by
  cases t <;> simp [admits, toList]

end Targets

/-- Routines of the plugin that save and load guest memory. -/
structure Payloads where
  save : ByteArray
  load : ByteArray
deriving DecidableEq

def Payloads.none : Payloads := ⟨.empty, .empty⟩

structure Container where
  version : UInt32
  manifest : Manifest
  targets : Targets
  executable : Executable
  payloads : Payloads
  /-- The fixed header as it stands in the file, followed by the target array. -/
  rawHeader : ByteArray
  fileLength : Nat
deriving DecidableEq

end GuestPlugin
