import GuestPlugin.Region.Placement

/-! # Copying an executable into a region

Every range is checked before the first byte is written, so a container that is turned away leaves
the memory as it was. A copy that fails halfway leaves what was copied so far: the memory is part of
the outcome either way. The answer `none` is an access outside the memory.
-/

set_option autoImplicit false

namespace GuestPlugin

/-- What a copy came to, with the memory and the stream as it left them. -/
structure Staged (n : Nat) (α : Type) where
  result : Except ImageError α
  memory : Bytes n
  stream : Stream

/-- Whether there is nothing to run, or a checksum without the payload that goes with it. -/
def Container.lacksLoadRoutine (c : Container) : Bool :=
  c.executable.code.size == 0 || (c.manifest.checksum != 0 && c.payloads.load.size == 0)

namespace Staged

variable {n : Nat}

/-- Copies the parts one behind the other from `cursor` on and returns where they end. An empty
part makes no call, wherever it is said to lie. -/
def copyParts (memory : Bytes n) (stream : Stream) (cursor : Nat) :
    List FileRange → Option (Staged n Nat)
  | [] => some ⟨.ok cursor, memory, stream⟩
  | part :: rest =>
    if part.size = 0 then copyParts memory stream cursor rest
    else
      match stream.readAt part.offset.toNat part.size.toNat with
      | (none, stream) => some ⟨.error .readFailed, memory, stream⟩
      | (some bytes, stream) => do
        let memory ← memory.write? cursor bytes.toByteArray
        copyParts memory stream (cursor + part.size.toNat) rest

/-- Stages the raw header, then copies the parts and clears the rest of the image. -/
def fill (c : Container) (placement : Placement) (memory : Bytes n) (stream : Stream) :
    Option (Staged n Placement) := do
  let memory ← memory.writeTail? placement.rawHeaderStart.toNat c.rawHeader
  let copied ← copyParts memory stream Placement.partsStart c.executable.parts
  match copied.result with
  | .error cause => return ⟨.error cause, copied.memory, copied.stream⟩
  | .ok cursor =>
    let memory ← copied.memory.clear? cursor placement.imageSize.toNat
    return ⟨.ok placement, memory, copied.stream⟩

end Staged

def Container.stage (c : Container) {size : UInt32} (memory : Bytes size.toNat) (stream : Stream) :
    Option (Staged size.toNat Placement) :=
  if c.lacksLoadRoutine then some ⟨.error .missingLoadRoutine, memory, stream⟩
  else
    match Placement.compute c.executable c.rawHeader.size size with
    | .error cause => some ⟨.error cause, memory, stream⟩
    | .ok placement =>
      if c.executable.parts.all (·.endsWithin c.fileLength) then
        Staged.fill c placement memory stream
      else some ⟨.error .outsideFile, memory, stream⟩

end GuestPlugin
