import GuestPlugin.Path
import GuestPlugin.Title
import GuestPlugin.Region.Tier

/-! # Configuration

Everything has a stock value except the address that the entry hook branches to. Directory reads ask
for at least one entry: the type holds no other batch size.
-/

set_option autoImplicit false

namespace GuestPlugin

/-- How the plugin runtime treats guest memory while its menu is open. -/
inductive MemoryStrategy where
  | none
  | privateToGuest
  | swap
deriving DecidableEq

def MemoryStrategy.name : MemoryStrategy → String
  | .none => "None"
  | .privateToGuest => "Private"
  | .swap => "Swap"

structure Config where
  pluginRoot : Path
  extension : String
  defaultStem : String
  batchSize : Nat
  batchSize_pos : 0 < batchSize
  tierSizes : Vector UInt32 4
  entryAddress : UInt32
  heapAddress : UInt32
  trampoline : UInt32
  eventChannel : UInt32
  replyChannel : UInt32
  strategy : MemoryStrategy

namespace Config

def stock (trampoline : UInt32) : Config where
  pluginRoot := ⟨"/luma/plugins"⟩
  extension := "3gx"
  defaultStem := "default"
  batchSize := 10
  batchSize_pos := by decide
  tierSizes := #v[0x500000, 0x200000, 0xA00000, 0x500000]
  entryAddress := 0x00100000
  heapAddress := 0x06000000
  trampoline := trampoline
  eventChannel := 0
  replyChannel := 0
  strategy := .none

/-- A batch size of zero counts as one. -/
def withBatchSize (c : Config) (n : Nat) : Config :=
  { c with batchSize := max n 1, batchSize_pos := by omega }

def tierSize (c : Config) (t : Tier) : UInt32 := c.tierSizes[t.index]

def withTierSize (c : Config) (t : Tier) (size : UInt32) : Config :=
  { c with tierSizes := c.tierSizes.set t.index size }

def titleDirectory (c : Config) (title : TitleId) : Path := c.pluginRoot.join ⟨title.render⟩

/-- The plugin of every title that has none of its own. -/
def defaultPlugin (c : Config) : Path := c.pluginRoot.join ⟨c.defaultStem ++ "." ++ c.extension⟩

end Config
end GuestPlugin
