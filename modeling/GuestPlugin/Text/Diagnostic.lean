import GuestPlugin.Text.Unprintable
import GuestPlugin.Text.Hex

/-! # Diagnostic text of values

The one-line form in which a state is written out: a record with its field names, a constructor with
its argument, a list, and text in double quotes. An apostrophe needs no escape there.
-/

set_option autoImplicit false

namespace GuestPlugin.Diagnostic

def escape (c : Char) : String :=
  if c = '"' then "\\\""
  else if c = '\\' then "\\\\"
  else if c = '\n' then "\\n"
  else if c = '\r' then "\\r"
  else if c = '\t' then "\\t"
  else if c = '\x00' then "\\0"
  else if isUnprintable c then "\\u\x7b" ++ Hex.minimal c.toNat ++ "\x7d"
  else c.toString

def quoted (s : String) : String := "\"" ++ String.join (s.toList.map escape) ++ "\""

def list (items : List String) : String := "[" ++ ", ".intercalate items ++ "]"

def record (name : String) (fields : List (String × String)) : String :=
  name ++ " \x7b " ++ ", ".intercalate (fields.map fun (field, value) => field ++ ": " ++ value) ++
    " \x7d"

def apply (name argument : String) : String := name ++ "(" ++ argument ++ ")"

def optional : Option String → String
  | none => "None"
  | some value => apply "Some" value

def word (n : UInt32) : String := toString n.toNat

def bool (b : Bool) : String := if b then "true" else "false"

def bytes (b : ByteArray) : String := list (b.data.toList.map fun byte => toString byte.toNat)

end GuestPlugin.Diagnostic
