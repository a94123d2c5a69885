import GuestPlugin.Text.Utf8

/-! # Directory entries and the plugin extension

An entry is a candidate if it is a file whose name has at least five characters and ends in the
configured extension up to ASCII case. The ending is taken by bytes, and never begins inside a
character.
-/

set_option autoImplicit false

namespace GuestPlugin

structure Entry where
  name : String
  isDirectory : Bool
deriving DecidableEq

namespace Entry

def shortestName : Nat := 5

def lower (byte : UInt8) : UInt8 := if 0x41 ≤ byte && byte ≤ 0x5A then byte + 0x20 else byte

/-- Whether a character, or the end of the text, is at this place of a text's bytes. -/
def isBoundary (bytes : ByteArray) (i : Nat) : Bool :=
  match bytes[i]? with
  | some byte => !Utf8.isContinuation byte
  | none => i == bytes.size

/-- Whether the bytes of `name` end in those of `extension` up to ASCII case. -/
def endsIn (name extension : ByteArray) : Bool :=
  extension.size ≤ name.size &&
    let start := name.size - extension.size
    isBoundary name start &&
      (name.data.toList.drop start).map lower == extension.data.toList.map lower

def isPlugin (entry : Entry) (extension : String) : Bool :=
  !entry.isDirectory && shortestName ≤ entry.name.length &&
    endsIn entry.name.toUTF8 extension.toUTF8

end Entry
end GuestPlugin
