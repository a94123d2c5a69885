import GuestPlugin.Bytes

/-! # An open file that may fail

A stream is its content, the length it reports, and which of its calls fail, counted from one. The
reported length is not tied to the content. A failing seek does not move, a failing read transfers
nothing; a read succeeds only when all the bytes asked for are there.
-/

set_option autoImplicit false

namespace GuestPlugin

structure Stream where
  content : ByteArray
  length : Nat
  seekFails : Nat → Bool
  readFails : Nat → Bool
  position : Nat
  seeks : Nat
  reads : Nat

namespace Stream

/-- The stream of a file just opened, in which no call fails. -/
def ofContent (content : ByteArray) : Stream where
  content := content
  length := content.size
  seekFails := fun _ => false
  readFails := fun _ => false
  position := 0
  seeks := 0
  reads := 0

def seek (s : Stream) (target : Nat) : Option Unit × Stream :=
  if s.seekFails (s.seeks + 1) then (none, { s with seeks := s.seeks + 1 })
  else (some (), { s with seeks := s.seeks + 1, position := target })

/-- Moves to the reported end and returns the reported length. -/
def seekEnd (s : Stream) : Option Nat × Stream :=
  match s.seek s.length with
  | (some (), s) => (some s.length, s)
  | (none, s) => (none, s)

def read (s : Stream) (count : Nat) : Option (Bytes count) × Stream :=
  if fits : s.position + count ≤ s.content.size then
    if s.readFails (s.reads + 1) then (none, { s with reads := s.reads + 1 })
    else
      (some (Bytes.slice ⟨s.content, rfl⟩ s.position count fits),
        { s with reads := s.reads + 1, position := s.position + count })
  else (none, { s with reads := s.reads + 1 })

/-- Reads the bytes from `offset` on, wherever the stream stands. -/
def readAt (s : Stream) (offset size : Nat) : Option (Bytes size) × Stream :=
  match s.seek offset with
  | (some (), s) => s.read size
  | (none, s) => (none, s)

/-- Reads a range that a header declares. An empty range is read without any call, wherever it is
said to lie; another must end within the reported length. -/
def readRange (s : Stream) (offset size : Nat) : Option ByteArray × Stream :=
  if size = 0 then (some .empty, s)
  else if s.length < offset + size then (none, s)
  else
    let (bytes, s) := s.readAt offset size
    (bytes.map (·.toByteArray), s)

end Stream
end GuestPlugin
