import GuestPlugin.Proofs.Region.Capacity
import GuestPlugin.Proofs.Region.Staging
import GuestPlugin.Proofs.Storage.Faults

/-! # What staging decides

The checks of a container come first and make no call on the stream, so a container that they turn away
leaves stream and memory as they were. Behind them only the calls for the parts can fail; which of them do is
known from their numbers. A copy that is broken off has written the staged header and parts of the image,
also if the read that failed left some of its bytes behind.
-/

set_option autoImplicit false

namespace GuestPlugin

namespace Bytes

variable {n : Nat} {a b c a' b' : Bytes n} {allowed : Nat → Prop}

/-- Two memories of which the bytes differ at these places at most. -/
def SameOutside (allowed : Nat → Prop) (a b : Bytes n) : Prop :=
  ∀ i (h : i < n), ¬ allowed i → b.get i h = a.get i h

theorem SameOutside.refl (allowed : Nat → Prop) (a : Bytes n) : a.SameOutside allowed a :=
  fun _ _ _ => rfl

theorem SameOutside.symm (h : SameOutside allowed a b) : SameOutside allowed b a :=
  fun i hi hOutside => (h i hi hOutside).symm

theorem SameOutside.trans (hFirst : SameOutside allowed a b) (hSecond : SameOutside allowed b c) :
    SameOutside allowed a c :=
  fun i hi hOutside => (hSecond i hi hOutside).trans (hFirst i hi hOutside)

theorem SameOutside.mono {wider : Nat → Prop} (h : SameOutside allowed a b)
    (hWider : ∀ i, i < n → allowed i → wider i) : SameOutside wider a b :=
  fun i hi hOutside => h i hi fun hAllowed => hOutside (hWider i hi hAllowed)

theorem sameOutside_of_splice {middle : List UInt8} {start : Nat} (hFits : start + middle.length ≤ n)
    (h : b.toList = splice a.toList start middle) :
    SameOutside (fun i => start ≤ i ∧ i < start + middle.length) a b := by
  intro i hi hOutside
  have hSame : b.toList[i]? = a.toList[i]? := by
    rw [h, getElem?_splice_of_outside (by rwa [length_toList]) hOutside]
  rw [getElem?_toList b i hi, getElem?_toList a i hi] at hSame
  exact Option.some.inj hSame

/-- The same bytes written at the same place make no new difference. -/
theorem SameOutside.splice {start : Nat} {middle : List UInt8} (h : SameOutside allowed a b)
    (hFits : start + middle.length ≤ n) (ha : a'.toList = Bytes.splice a.toList start middle)
    (hb : b'.toList = Bytes.splice b.toList start middle) : SameOutside allowed a' b' := by
  intro i hi hOutside
  have hSame : b'.toList[i]? = a'.toList[i]? := by
    rw [ha, hb]
    by_cases hInside : start ≤ i ∧ i < start + middle.length
    · rw [getElem?_splice_of_inside (by rw [length_toList]; omega) hInside,
        getElem?_splice_of_inside (by rw [length_toList]; omega) hInside]
    · rw [getElem?_splice_of_outside (by rwa [length_toList]) hInside,
        getElem?_splice_of_outside (by rwa [length_toList]) hInside, getElem?_toList a i hi,
        getElem?_toList b i hi, h i hi hOutside]
  rw [getElem?_toList b' i hi, getElem?_toList a' i hi] at hSame
  exact Option.some.inj hSame

end Bytes

namespace Stream

variable {s s' : Stream} {turn : Nat} {part : FileRange} {parts rest : List FileRange}

/-- Whether a part cannot be read by the calls of this turn. An empty part asks for none. -/
def Loses (s : Stream) (turn : Nat) (part : FileRange) : Prop :=
  part.size ≠ 0 ∧ s.Denies turn part.offset.toNat part.size.toNat

instance (s : Stream) (turn : Nat) (part : FileRange) : Decidable (s.Loses turn part) :=
  inferInstanceAs (Decidable (_ ∧ _))

theorem After.loses_iff (h : s.After 1 1 s') :
    s'.Loses turn part ↔ s.Loses (turn + 1) part := by
  rw [Loses, Loses, h.denies_iff, Nat.add_comm 1 turn]

/-- Whether one of the parts cannot be read, the first of them having this turn. -/
def Interrupts (s : Stream) (turn : Nat) : List FileRange → Prop
  | [] => False
  | part :: rest => s.Loses turn part ∨ s.Interrupts (turn + turnsFor part.size.toNat) rest

theorem interrupts_cons_of_empty (h : part.size = 0) :
    s.Interrupts turn (part :: rest) ↔ s.Interrupts turn rest := by
  simp [Interrupts, Loses, turnsFor, h]

theorem interrupts_cons (h : part.size ≠ 0) :
    s.Interrupts turn (part :: rest) ↔ s.Loses turn part ∨ s.Interrupts (turn + 1) rest := by
  have hSome : part.size.toNat ≠ 0 := fun hZero => h (UInt32.toNat_inj.mp hZero)
  simp [Interrupts, turnsFor, hSome]

theorem After.interrupts_iff (h : s.After 1 1 s') :
    s'.Interrupts turn parts ↔ s.Interrupts (turn + 1) parts := by
  induction parts generalizing turn with
  | nil => exact Iff.rfl
  | cons part rest ih => rw [Interrupts, Interrupts, ih, h.loses_iff, Nat.add_right_comm]

/-- The part at which reading breaks off: all before it are read, and it is not. -/
structure BreaksAt (s : Stream) (turn : Nat) (parts done : List FileRange) (part : FileRange) :
    Prop where
  isPrefix : done ++ [part] <+: parts
  passes : ¬ s.Interrupts turn done
  fails : s.Interrupts turn (done ++ [part])

theorem breaksAt_head (h : s.Loses turn part) : s.BreaksAt turn (part :: rest) [] part where
  isPrefix := ⟨rest, rfl⟩
  passes := id
  fails := .inl h

theorem BreaksAt.cons_of_empty {done : List FileRange} {first : FileRange} (hEmpty : first.size = 0)
    (h : s.BreaksAt turn rest done part) : s.BreaksAt turn (first :: rest) (first :: done) part where
  isPrefix := List.cons_prefix_cons.mpr ⟨rfl, h.isPrefix⟩
  passes := by
    rw [interrupts_cons_of_empty hEmpty]
    exact h.passes
  fails := by
    rw [List.cons_append, interrupts_cons_of_empty hEmpty]
    exact h.fails

theorem BreaksAt.cons {done : List FileRange} {first : FileRange} (hSome : first.size ≠ 0)
    (hRead : ¬ s.Loses turn first) (hAfter : s.After 1 1 s')
    (h : s'.BreaksAt turn rest done part) : s.BreaksAt turn (first :: rest) (first :: done) part where
  isPrefix := List.cons_prefix_cons.mpr ⟨rfl, h.isPrefix⟩
  passes := by
    rw [interrupts_cons hSome, ← hAfter.interrupts_iff, not_or]
    exact ⟨hRead, h.passes⟩
  fails := by
    rw [List.cons_append, interrupts_cons hSome, ← hAfter.interrupts_iff]
    exact .inr h.fails

end Stream

namespace Staged

variable {n : Nat}

/-- A copy that was broken off: the parts before the one that could not be read were copied. -/
structure BrokenOff (memory : Bytes n) (s : Stream) (cursor : Nat) (parts : List FileRange)
    (staged : Staged n Nat) (done : List FileRange) (part : FileRange) : Prop where
  result : staged.result = .error .readFailed
  breaks : s.BreaksAt 1 parts done part
  copied : Copied memory s.content cursor done staged (cursor + totalSize done)

/-- Copying fails exactly if one of the parts cannot be read. The induction is on the parts; a part that
was read leaves a stream on which the others have their turns one earlier. -/
theorem copyParts_cases (parts : List FileRange) (memory : Bytes n) (s : Stream) (cursor : Nat)
    (hRoom : cursor + totalSize parts ≤ n) :
    ∃ staged, copyParts memory s cursor parts = some staged ∧
      ((¬ s.Interrupts 1 parts ∧ ∃ stop, staged.result = .ok stop) ∨
        (s.Interrupts 1 parts ∧ ∃ done part, BrokenOff memory s cursor parts staged done part)) := by
  induction parts generalizing memory s cursor with
  | nil => exact ⟨_, rfl, .inl ⟨id, cursor, rfl⟩⟩
  | cons part rest ih =>
    rw [totalSize] at hRoom
    by_cases hEmpty : part.size = 0
    · obtain ⟨staged, hStaged, hCases⟩ := ih memory s cursor (by omega)
      rw [copyParts, if_pos hEmpty, Stream.interrupts_cons_of_empty hEmpty]
      refine ⟨staged, hStaged, hCases.imp_right ?_⟩
      rintro ⟨hInterrupts, done, failing, h⟩
      have hCopied := copied_cons_of_empty hEmpty h.copied
      have hTotal : totalSize (part :: done) = totalSize done := by simp [totalSize, hEmpty]
      rw [← hTotal] at hCopied
      exact ⟨hInterrupts, part :: done, failing, h.result, h.breaks.cons_of_empty hEmpty, hCopied⟩
    rw [Stream.interrupts_cons hEmpty]
    rcases (Stream.After.refl s).readAt_cases part.offset.toNat part.size.toNat with
      ⟨hDenied, s', hRead⟩ | ⟨hDenied, bytes, s', hRead, hAfter⟩
    · have hLoses : s.Loses 1 part := ⟨hEmpty, hDenied⟩
      refine ⟨_, copyParts_unread rest hEmpty hRead, .inr ⟨.inl hLoses, [], part, ?_⟩⟩
      exact ⟨rfl, Stream.breaksAt_head hLoses, rfl, rfl, Bytes.splice_nil.symm⟩
    · obtain ⟨middle, hCopy, hLength, hMiddle⟩ := copyParts_read memory rest hEmpty
        (show cursor + part.size.toNat ≤ n by omega) hRead
      obtain ⟨staged, hStaged, hCases⟩ := ih middle s' (cursor + part.size.toNat) (by omega)
      rw [hAfter.interrupts_iff] at hCases
      have hRead : ¬ s.Loses 1 part := fun hLoses => hDenied hLoses.2
      refine ⟨staged, hCopy.trans hStaged, ?_⟩
      rcases hCases with ⟨hPasses, hOk⟩ | ⟨hInterrupts, done, failing, h⟩
      · exact .inl ⟨not_or.mpr ⟨hRead, hPasses⟩, hOk⟩
      · refine .inr ⟨.inr hInterrupts, part :: done, failing, h.result,
          h.breaks.cons hEmpty hRead hAfter, ?_⟩
        have hCopied := h.copied
        rw [hAfter.content, Nat.add_assoc, ← totalSize] at hCopied
        exact copied_cons middle (by omega) hLength hMiddle hCopied

end Staged

/-- The places that staging may write to: the image behind the control block, and the staged header. -/
def Placement.Writes (p : Placement) (i : Nat) : Prop :=
  (0xA0 ≤ i ∧ i < p.imageSize.toNat) ∨ p.rawHeaderStart.toNat ≤ i

namespace Executable

variable {e : Executable} {s : Stream}

/-- Whether one of the parts cannot be read. Each that is not empty has a turn, one behind the other. -/
def Interrupted (e : Executable) (s : Stream) : Prop :=
  s.Loses 1 e.code ∨ s.Loses (1 + Stream.turnsFor e.code.size.toNat) e.rodata ∨
    s.Loses (1 + Stream.turnsFor e.code.size.toNat + Stream.turnsFor e.rodata.size.toNat) e.data

instance (e : Executable) (s : Stream) : Decidable (e.Interrupted s) :=
  inferInstanceAs (Decidable (_ ∨ _ ∨ _))

/-- The first part that cannot be read, and where its bytes were to begin. -/
inductive BreaksAt (e : Executable) (s : Stream) : FileRange → Nat → Prop where
  | code (lost : s.Loses 1 e.code) : e.BreaksAt s e.code 0xA0
  | rodata (code : ¬ s.Loses 1 e.code)
      (lost : s.Loses (1 + Stream.turnsFor e.code.size.toNat) e.rodata) :
      e.BreaksAt s e.rodata (0xA0 + e.code.size.toNat)
  | data (code : ¬ s.Loses 1 e.code)
      (rodata : ¬ s.Loses (1 + Stream.turnsFor e.code.size.toNat) e.rodata)
      (lost : s.Loses (1 + Stream.turnsFor e.code.size.toNat +
        Stream.turnsFor e.rodata.size.toNat) e.data) :
      e.BreaksAt s e.data (0xA0 + e.code.size.toNat + e.rodata.size.toNat)

theorem interrupts_parts_iff : s.Interrupts 1 e.parts ↔ e.Interrupted s := by
  simp only [parts, Stream.Interrupts, Interrupted, or_false]

theorem breaksAt_of_parts {done : List FileRange} {part : FileRange}
    (h : s.BreaksAt 1 e.parts done part) : e.BreaksAt s part (0xA0 + Staged.totalSize done) := by
  obtain ⟨⟨rest, hParts⟩, hPasses, hFails⟩ := h
  rw [parts, List.append_assoc] at hParts
  cases done with
  | nil =>
    obtain ⟨rfl, _⟩ := List.cons.inj hParts
    exact .code (by simpa [Stream.Interrupts] using hFails)
  | cons code done =>
    obtain ⟨rfl, hBehind⟩ := List.cons.inj hParts
    cases done with
    | nil =>
      obtain ⟨rfl, _⟩ := List.cons.inj hBehind
      simp only [Stream.Interrupts, List.cons_append, List.nil_append, or_false] at hPasses hFails
      exact .rodata hPasses (hFails.resolve_left hPasses)
    | cons rodata done =>
      obtain ⟨rfl, hLast⟩ := List.cons.inj hBehind
      cases done with
      | nil =>
        obtain ⟨rfl, _⟩ := List.cons.inj hLast
        simp only [Stream.Interrupts, List.cons_append, List.nil_append, or_false, not_or]
          at hPasses hFails
        have hData := (hFails.resolve_left hPasses.1).resolve_left hPasses.2
        simpa only [Staged.totalSize, Nat.add_zero, Nat.add_assoc] using
          BreaksAt.data hPasses.1 hPasses.2 hData
      | cons data done => simp at hLast

end Executable

namespace Container

variable {size : UInt32} {memory staged : Bytes size.toNat} {s : Stream}

/-- A memory as a copy leaves it that was broken off at this part. -/
structure IsTorn (c : Container) (p : Placement) (memory : Bytes size.toNat) (s : Stream)
    (done : List FileRange) (part : FileRange) (staged : Bytes size.toNat) : Prop where
  breaks : s.BreaksAt 1 c.executable.parts done part
  length : (done.flatMap (·.bytesIn s.content)).length = Staged.totalSize done
  bytes : staged.toList =
    Bytes.splice
      (Bytes.splice memory.toList p.rawHeaderStart.toNat c.rawHeader.data.toList)
      Placement.partsStart (done.flatMap (·.bytesIn s.content))

theorem fill_cases (c : Container) (memory : Bytes size.toNat) (s : Stream) {p : Placement}
    (hFits : p.Fits c.executable c.rawHeader.size size) :
    ∃ staged, Staged.fill c p memory s = some staged ∧
      ((¬ s.Interrupts 1 c.executable.parts ∧ staged.result = .ok p) ∨
        (s.Interrupts 1 c.executable.parts ∧ staged.result = .error .readFailed ∧
          ∃ done part, c.IsTorn p memory s done part staged.memory)) := by
  have hParts := hFits.parts_le
  have hImage := hFits.image_le
  have hTotal := c.executable.totalSize_parts
  obtain ⟨topped, hTop, hTopped⟩ := memory.exists_writeTail? c.rawHeader hFits.header
  obtain ⟨copied, hCopy, hCopied⟩ :=
    Staged.copyParts_total c.executable.parts topped s Placement.partsStart (by omega)
  obtain ⟨_, hSame, hCases⟩ :=
    Staged.copyParts_cases c.executable.parts topped s Placement.partsStart (by omega)
  cases hCopy.symm.trans hSame
  simp only [Staged.fill, hTop, hCopy, Option.bind_eq_bind, Option.bind_some]
  rcases hCases with ⟨hPasses, stop, hResult⟩ | ⟨hInterrupts, done, part, hBroken⟩
  · have hStop := (hCopied stop hResult).stops
    obtain ⟨cleared, hClear, _⟩ := copied.memory.exists_clear?
      (show stop ≤ p.imageSize.toNat by omega) hImage
    simp only [hResult, hClear]
    exact ⟨_, rfl, .inl ⟨hPasses, rfl⟩⟩
  · simp only [hBroken.result]
    refine ⟨_, rfl, .inr ⟨hInterrupts, rfl, done, part, hBroken.breaks, hBroken.copied.length, ?_⟩⟩
    rw [hBroken.copied.bytes, hTopped]

theorem IsTorn.sameOutside {c : Container} {p : Placement} {done : List FileRange}
    {part : FileRange} (h : c.IsTorn p memory s done part staged)
    (hFits : p.Fits c.executable c.rawHeader.size size) :
    memory.SameOutside p.Writes staged ∧ ∀ i, 0xA0 + Staged.totalSize done ≤ i →
      i < 0xA0 + Staged.totalSize done + part.size.toNat → p.Writes i := by
  have hStart : Placement.partsStart = 0xA0 := rfl
  have hParts := hFits.parts_le
  have hImage := hFits.image_le
  have hHeader : p.rawHeaderStart.toNat + c.rawHeader.data.toList.length = size.toNat := hFits.header
  have hTotal := c.executable.totalSize_parts
  obtain ⟨rest, hRest⟩ := h.breaks.isPrefix
  rw [← hRest, Staged.totalSize_append, Staged.totalSize_append, Staged.totalSize] at hTotal
  obtain ⟨topped, hTop, hTopped⟩ := memory.exists_writeTail? c.rawHeader hFits.header
  have hBytes := h.bytes
  rw [← hTopped] at hBytes
  constructor
  · have hAbove := Bytes.sameOutside_of_splice (by omega) hTopped
    have hBelow := Bytes.sameOutside_of_splice (by rw [h.length]; omega) hBytes
    refine (hAbove.mono ?_).trans (hBelow.mono ?_)
    · rintro i _ ⟨hBegin, _⟩
      exact .inr hBegin
    · rintro i _ ⟨hBegin, hStop⟩
      rw [h.length] at hStop
      exact .inl ⟨hBegin, by omega⟩
  · intro i hBegin hStop
    exact .inl ⟨by omega, by omega⟩

/-- The checks of a container in order, and behind them the calls for its parts. -/
def stagingVerdict (c : Container) (size : UInt32) (s : Stream) : Except ImageError Placement :=
  if c.executable.code.size = 0 ∨ (c.manifest.checksum ≠ 0 ∧ c.payloads.load.size = 0) then
    .error .missingLoadRoutine
  else if size.toNat < c.executable.imageExtent + c.rawHeader.size then
    .error (.tooLarge (min c.executable.imageExtent (2 ^ 32 - 1)).toUInt32 size)
  else if c.fileLength < c.executable.code.offset.toNat + c.executable.code.size.toNat ∨
      c.fileLength < c.executable.rodata.offset.toNat + c.executable.rodata.size.toNat ∨
      c.fileLength < c.executable.data.offset.toNat + c.executable.data.size.toNat then
    .error .outsideFile
  else if c.executable.Interrupted s then .error .readFailed
  else .ok (.spanning c.executable.imageExtent c.rawHeader.size size)

theorem lacksLoadRoutine_iff (c : Container) :
    c.lacksLoadRoutine = true ↔
      c.executable.code.size = 0 ∨ (c.manifest.checksum ≠ 0 ∧ c.payloads.load.size = 0) := by
  simp [lacksLoadRoutine]

theorem endsWithin_iff (c : Container) :
    c.executable.parts.all (·.endsWithin c.fileLength) = true ↔
      ¬ (c.fileLength < c.executable.code.offset.toNat + c.executable.code.size.toNat ∨
        c.fileLength < c.executable.rodata.offset.toNat + c.executable.rodata.size.toNat ∨
        c.fileLength < c.executable.data.offset.toNat + c.executable.data.size.toNat) := by
  simp [Executable.parts, FileRange.endsWithin]

theorem stage_cases (c : Container) (memory : Bytes size.toNat) (s : Stream) :
    ∃ staged, c.stage memory s = some staged ∧ staged.result = c.stagingVerdict size s ∧
      (∀ cause, staged.result = .error cause → cause ≠ .readFailed →
        staged.memory = memory ∧ staged.stream = s) ∧
      (staged.result = .error .readFailed → ∃ p done part,
        Placement.compute c.executable c.rawHeader.size size = .ok p ∧
        c.IsTorn p memory s done part staged.memory) := by
  rw [stage, stagingVerdict]
  by_cases hLacks : c.lacksLoadRoutine
  · rw [if_pos hLacks, if_pos (c.lacksLoadRoutine_iff.mp hLacks)]
    exact ⟨_, rfl, rfl, fun _ _ _ => ⟨rfl, rfl⟩, nofun⟩
  rw [if_neg hLacks, if_neg (hLacks ∘ c.lacksLoadRoutine_iff.mpr), Placement.compute_eq]
  by_cases hRoom : c.executable.imageExtent + c.rawHeader.size ≤ size.toNat
  case neg =>
    rw [if_neg hRoom, if_pos (Nat.not_le.mp hRoom)]
    exact ⟨_, rfl, rfl, fun _ _ _ => ⟨rfl, rfl⟩, nofun⟩
  rw [if_pos hRoom, if_neg (Nat.not_lt.mpr hRoom)]
  by_cases hWithin : c.executable.parts.all (·.endsWithin c.fileLength)
  case neg =>
    have hBeyond := Classical.not_not.mp (hWithin ∘ c.endsWithin_iff.mpr)
    simp only [if_neg hWithin, if_pos hBeyond]
    exact ⟨_, rfl, rfl, fun _ _ _ => ⟨rfl, rfl⟩, nofun⟩
  obtain ⟨staged, hFill, hCases⟩ := fill_cases c memory s (Placement.fits_spanning hRoom)
  simp only [if_pos hWithin, if_neg (c.endsWithin_iff.mp hWithin)]
  refine ⟨staged, hFill, ?_⟩
  rw [Executable.interrupts_parts_iff] at hCases
  rcases hCases with ⟨hPasses, hResult⟩ | ⟨hInterrupts, hResult, done, part, hTorn⟩
  · rw [if_neg hPasses, hResult]
    exact ⟨rfl, nofun, nofun⟩
  · rw [if_pos hInterrupts, hResult]
    refine ⟨rfl, ?_, fun _ => ⟨_, done, part, rfl, hTorn⟩⟩
    intro cause hCause hOther
    cases hCause
    exact absurd rfl hOther

/-- Staging always comes to what the checks and the calls say in their order. A container that a check
turns away leaves memory and stream as they were, so no call was made on it. When the copy is broken off,
nothing outside the image and the staged header has changed; nor would it, had the read that failed left
anything where it was to put its bytes. -/
theorem stage_verdict (c : Container) (memory : Bytes size.toNat) (s : Stream) :
    ∃ staged, c.stage memory s = some staged ∧ staged.result = c.stagingVerdict size s ∧
      (∀ cause, staged.result = .error cause → cause ≠ .readFailed →
        staged.memory = memory ∧ staged.stream = s) ∧
      (staged.result = .error .readFailed → ∃ p part start,
        Placement.compute c.executable c.rawHeader.size size = .ok p ∧
        c.executable.BreaksAt s part start ∧
        memory.SameOutside p.Writes staged.memory ∧
        ∀ left, staged.memory.SameOutside (fun i => start ≤ i ∧ i < start + part.size.toNat) left →
          memory.SameOutside p.Writes left) := by
  obtain ⟨staged, hStage, hVerdict, hRefused, hBroken⟩ := c.stage_cases memory s
  refine ⟨staged, hStage, hVerdict, hRefused, ?_⟩
  intro hResult
  obtain ⟨p, done, part, hCompute, hTorn⟩ := hBroken hResult
  obtain ⟨hSame, hDestination⟩ := hTorn.sameOutside (Placement.fits_of_compute hCompute)
  refine ⟨p, part, _, hCompute, Executable.breaksAt_of_parts hTorn.breaks, hSame, ?_⟩
  intro left hLeft
  exact hSame.trans (hLeft.mono fun i _ hInside => hDestination i hInside.1 hInside.2)

end Container
end GuestPlugin
