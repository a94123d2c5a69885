/-! # Text from bytes that need not be UTF-8

A well-formed sequence is its character. Where none starts, one replacement character stands for the
longest beginning of a well-formed sequence found there, or for one byte when there is no such
beginning, and reading goes on behind it.
-/

set_option autoImplicit false

namespace GuestPlugin.Utf8

def isContinuation (byte : UInt8) : Bool := 0x80 ≤ byte && byte ≤ 0xBF

/-- The second bytes that may follow `lead` in a sequence of three or four bytes: no longer form of
a shorter sequence, no surrogate, nothing above the last code point. -/
def mayFollow (lead second : UInt8) : Bool :=
  if lead = 0xE0 then 0xA0 ≤ second && second ≤ 0xBF
  else if lead = 0xED then 0x80 ≤ second && second ≤ 0x9F
  else if lead = 0xF0 then 0x90 ≤ second && second ≤ 0xBF
  else if lead = 0xF4 then 0x80 ≤ second && second ≤ 0x8F
  else 0xE1 ≤ lead && lead ≤ 0xF3 && isContinuation second

/-- Bytes that one replacement character stands for at `i`, where no well-formed sequence starts. -/
def brokenLength (bytes : ByteArray) (i : Nat) : Nat :=
  match bytes[i]?, bytes[i + 1]? with
  | some lead, some second =>
    if mayFollow lead second then
      match bytes[i + 2]? with
      | some third => if 0xF0 ≤ lead && isContinuation third then 3 else 2
      | none => 2
    else 1
  | _, _ => 1

theorem brokenLength_pos (bytes : ByteArray) (i : Nat) : 0 < brokenLength bytes i := by
  unfold brokenLength
  repeat' split
  all_goals decide

def charsFrom (bytes : ByteArray) (i : Nat) : List Char :=
  if _inside : i < bytes.size then
    match bytes.utf8DecodeChar? i with
    | some c => c :: charsFrom bytes (i + c.utf8Size)
    | none => '\ufffd' :: charsFrom bytes (i + brokenLength bytes i)
  else []
termination_by bytes.size - i
decreasing_by
  · have := c.utf8Size_pos
    omega
  · have := brokenLength_pos bytes i
    omega

def decodeLossy (bytes : ByteArray) : String := String.ofList (charsFrom bytes 0)

end GuestPlugin.Utf8
