import GuestPlugin.Container.Header

/-! # Reading a container

Nothing in the header is trusted: magic and version are checked before anything else is read, and
every range is checked against the reported length before it is followed. Which cause a failing call
gives depends only on what was being read: inside a payload it is the payload that is invalid.
-/

set_option autoImplicit false

namespace GuestPlugin

abbrev Reading := ExceptT FormatError (StateM Stream)

/-- A stream operation, with the cause that its failure is reported as. -/
def Reading.attempt {α : Type} (operation : Stream → Option α × Stream) (cause : FormatError) :
    Reading α :=
  fun s =>
    match operation s with
    | (some a, s) => (.ok a, s)
    | (none, s) => (.error cause, s)

/-- The titles of a target array, one in every eight bytes. -/
def Targets.titles : (count : Nat) → List UInt8 → List TitleId
  | 0, _ => []
  | count + 1, bytes =>
    ⟨(LittleEndian.value (bytes.take 8)).toUInt64⟩ :: titles count (bytes.drop 8)

namespace Container

/-- The version and the whole fixed header, read from the front of the stream. -/
def readHeader : Reading (UInt32 × Bytes Header.size) := do
  Reading.attempt (·.seek 0) .unreadable
  let lead ← Reading.attempt (·.read Header.leadSize) .unreadable
  let version ← Header.checkLead lead
  let rest ← Reading.attempt (·.read (Header.size - Header.leadSize)) .unreadable
  return (version, lead.append rest)

def read : Reading Container := do
  let fileLength ← Reading.attempt Stream.seekEnd .unreadable
  let (version, bytes) ← readHeader
  let header ← Header.decode bytes
  let count := header.targetCount.toNat
  let array ← Reading.attempt (·.readRange header.targetOffset.toNat (8 * count)) .unreadable
  let payload (range : FileRange) :=
    Reading.attempt (·.readRange range.offset.toNat range.size.toNat) .invalidPayload
  let save ← payload header.save
  let load ← payload header.load
  return {
    version
    manifest := header.manifest
    targets := .ofList (Targets.titles count array.data.toList)
    executable := header.executable
    payloads := ⟨save, load⟩
    rawHeader := bytes.toByteArray ++ array
    fileLength }

end Container
end GuestPlugin
