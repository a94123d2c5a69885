import GuestPlugin.Container.Read
import GuestPlugin.Proofs.Storage.Stream

/-! # Readers, one step at a time

A reader is a function of the stream it is given. What it does with the stream beyond the place it
stands at is nothing: the file that is read later is the file that was opened.
-/

set_option autoImplicit false

namespace GuestPlugin

namespace Reading

variable {α β : Type}

/-- What a reader makes of a stream, and the stream as it leaves it. -/
def outcome (x : Reading α) (s : Stream) : Except FormatError α × Stream := (x.run.run s).run

theorem outcome_bind (x : Reading α) (f : α → Reading β) (s : Stream) :
    outcome (x >>= f) s =
      match outcome x s with
      | (.ok a, s') => outcome (f a) s'
      | (.error cause, s') => (.error cause, s') := by
  rw [outcome, outcome, ExceptT.run_bind, StateT.run_bind, Id.run_bind]
  rcases (x.run.run s).run with ⟨_ | _, _⟩ <;> rfl

theorem outcome_lift (r : Except FormatError α) (s : Stream) :
    outcome (liftM r : Reading α) s = (r, s) := by
  cases r <;> rfl

theorem outcome_attempt (operation : Stream → Option α × Stream) (cause : FormatError) (s : Stream) :
    outcome (attempt operation cause) s =
      ((operation s).1.elim (.error cause) .ok, (operation s).2) := by
  change attempt operation cause s = _
  rw [attempt]
  split <;> simp_all

theorem outcome_attempt_bind_some {operation : Stream → Option α × Stream} {cause : FormatError}
    {f : α → Reading β} {s s' : Stream} {a : α} (h : operation s = (some a, s')) :
    outcome (attempt operation cause >>= f) s = outcome (f a) s' := by
  rw [outcome_bind, outcome_attempt, h]
  rfl

theorem outcome_attempt_bind_none {operation : Stream → Option α × Stream} {cause : FormatError}
    {f : α → Reading β} {s s' : Stream} (h : operation s = (none, s')) :
    outcome (attempt operation cause >>= f) s = (.error cause, s') := by
  rw [outcome_bind, outcome_attempt, h]
  rfl

theorem outcome_lift_bind_ok {r : Except FormatError α} {f : α → Reading β} {s : Stream} {a : α}
    (h : r = .ok a) : outcome ((liftM r : Reading α) >>= f) s = outcome (f a) s := by
  rw [outcome_bind, outcome_lift, h]

theorem outcome_lift_bind_error {r : Except FormatError α} {f : α → Reading β} {s : Stream}
    {cause : FormatError} (h : r = .error cause) :
    outcome ((liftM r : Reading α) >>= f) s = (.error cause, s) := by
  rw [outcome_bind, outcome_lift, h]

theorem outcome_bind_eq_ok {x : Reading α} {f : α → Reading β} {s s' : Stream} {b : β}
    (h : outcome (x >>= f) s = (.ok b, s')) :
    ∃ a middle, outcome x s = (.ok a, middle) ∧ outcome (f a) middle = (.ok b, s') := by
  rw [outcome_bind] at h
  rcases hFirst : outcome x s with ⟨cause | a, middle⟩
  · rw [hFirst] at h
    cases h
  · rw [hFirst] at h
    exact ⟨a, middle, rfl, h⟩

theorem outcome_attempt_eq_ok {operation : Stream → Option α × Stream} {cause : FormatError}
    {s s' : Stream} {a : α} (h : outcome (attempt operation cause) s = (.ok a, s')) :
    operation s = (some a, s') := by
  rw [outcome_attempt] at h
  rcases hOperation : operation s with ⟨_ | answer, after⟩
  · rw [hOperation] at h
    cases h
  · rw [hOperation] at h
    cases h
    rfl

theorem outcome_lift_eq_ok {r : Except FormatError α} {s s' : Stream} {a : α}
    (h : outcome (liftM r : Reading α) s = (.ok a, s')) : r = .ok a ∧ s' = s := by
  rw [outcome_lift] at h
  cases h
  exact ⟨rfl, rfl⟩

def KeepsContent (x : Reading α) : Prop := ∀ s, (outcome x s).2.content = s.content

theorem keepsContent_pure (a : α) : KeepsContent (pure a) := fun _ => rfl

theorem keepsContent_lift (r : Except FormatError α) : KeepsContent (liftM r : Reading α) := by
  intro s
  rw [outcome_lift]

theorem keepsContent_attempt {operation : Stream → Option α × Stream} (cause : FormatError)
    (h : ∀ s, (operation s).2.content = s.content) : KeepsContent (attempt operation cause) := by
  intro s
  rw [outcome_attempt]
  exact h s

theorem KeepsContent.bind {x : Reading α} {f : α → Reading β} (hx : KeepsContent x)
    (hf : ∀ a, KeepsContent (f a)) : KeepsContent (x >>= f) := by
  intro s
  have hFirst := hx s
  rw [outcome_bind]
  rcases hOutcome : outcome x s with ⟨cause | a, s'⟩
  · rwa [hOutcome] at hFirst
  · rw [hOutcome] at hFirst
    exact (hf a s').trans hFirst

end Reading

namespace Container

open Reading

def parse (s : Stream) : Except FormatError Container × Stream := outcome read s

theorem content_parse (s : Stream) : (parse s).2.content = s.content := by
  have hHeader : KeepsContent readHeader := by
    refine (keepsContent_attempt _ fun s => s.content_seek 0).bind fun _ => ?_
    refine (keepsContent_attempt _ fun s => s.content_read _).bind fun lead => ?_
    refine (keepsContent_lift _).bind fun version => ?_
    refine (keepsContent_attempt _ fun s => s.content_read _).bind fun rest => ?_
    exact keepsContent_pure _
  have hRead : KeepsContent read := by
    refine (keepsContent_attempt _ Stream.content_seekEnd).bind fun fileLength => ?_
    refine hHeader.bind fun lead => ?_
    refine (keepsContent_lift _).bind fun header => ?_
    refine (keepsContent_attempt _ fun s => s.content_readRange _ _).bind fun array => ?_
    refine (keepsContent_attempt _ fun s => s.content_readRange _ _).bind fun save => ?_
    refine (keepsContent_attempt _ fun s => s.content_readRange _ _).bind fun load => ?_
    exact keepsContent_pure _
  exact hRead s

theorem content_of_parse {s s' : Stream} {result : Except FormatError Container}
    (h : parse s = (result, s')) : s'.content = s.content := by
  have hContent := content_parse s
  rwa [h] at hContent

/-- The front of a file as it is read: the lead decides whether the rest is asked for. -/
inductive ReadsHeader (s : Stream) : UInt32 → Bytes Header.size → Stream → Prop where
  | intro {atFront behindLead s' : Stream} {version : UInt32} {lead : Bytes Header.leadSize}
      {rest : Bytes (Header.size - Header.leadSize)} (hSeek : s.seek 0 = (some (), atFront))
      (hLead : atFront.read Header.leadSize = (some lead, behindLead))
      (hVersion : Header.checkLead lead = .ok version)
      (hRest : behindLead.read (Header.size - Header.leadSize) = (some rest, s')) :
      ReadsHeader s version (lead.append rest) s'

theorem readHeader_eq_ok_iff {s s' : Stream} {version : UInt32} {bytes : Bytes Header.size} :
    outcome readHeader s = (.ok (version, bytes), s') ↔ ReadsHeader s version bytes s' := by
  constructor
  · intro h
    obtain ⟨_, atFront, hSeek, h⟩ := outcome_bind_eq_ok h
    obtain ⟨lead, behindLead, hLead, h⟩ := outcome_bind_eq_ok h
    obtain ⟨found, afterCheck, hCheck, h⟩ := outcome_bind_eq_ok h
    obtain ⟨hVersion, hStill⟩ := outcome_lift_eq_ok hCheck
    rw [hStill] at h
    obtain ⟨rest, behindHeader, hRest, h⟩ := outcome_bind_eq_ok h
    cases h
    exact .intro (outcome_attempt_eq_ok hSeek) (outcome_attempt_eq_ok hLead) hVersion
      (outcome_attempt_eq_ok hRest)
  · rintro ⟨hSeek, hLead, hVersion, hRest⟩
    rw [readHeader, outcome_attempt_bind_some hSeek, outcome_attempt_bind_some hLead,
      outcome_lift_bind_ok hVersion, outcome_attempt_bind_some hRest]
    rfl

/-- A container as it is read: the length, the header, and the three ranges that the header declares. -/
inductive Reads (s : Stream) : Container → Stream → Prop where
  | intro {atEnd behindHeader behindArray behindSave s' : Stream} {length : Nat} {version : UInt32}
      {bytes : Bytes Header.size} {header : Header} {array save load : ByteArray}
      (hEnd : s.seekEnd = (some length, atEnd))
      (hHeader : ReadsHeader atEnd version bytes behindHeader)
      (hDecode : Header.decode bytes = .ok header)
      (hArray : behindHeader.readRange header.targetOffset.toNat (8 * header.targetCount.toNat) =
        (some array, behindArray))
      (hSave : behindArray.readRange header.save.offset.toNat header.save.size.toNat =
        (some save, behindSave))
      (hLoad : behindSave.readRange header.load.offset.toNat header.load.size.toNat =
        (some load, s')) :
      Reads s {
        version
        manifest := header.manifest
        targets := .ofList (Targets.titles header.targetCount.toNat array.data.toList)
        executable := header.executable
        payloads := ⟨save, load⟩
        rawHeader := bytes.toByteArray ++ array
        fileLength := length } s'

theorem parse_eq_ok_iff {s s' : Stream} {c : Container} :
    parse s = (.ok c, s') ↔ Reads s c s' := by
  constructor
  · intro h
    obtain ⟨length, atEnd, hEnd, h⟩ := outcome_bind_eq_ok h
    obtain ⟨⟨version, bytes⟩, behindHeader, hHeader, h⟩ := outcome_bind_eq_ok h
    obtain ⟨header, afterDecode, hDecode, h⟩ := outcome_bind_eq_ok h
    obtain ⟨hDecoded, hStill⟩ := outcome_lift_eq_ok hDecode
    rw [hStill] at h
    obtain ⟨array, behindArray, hArray, h⟩ := outcome_bind_eq_ok h
    obtain ⟨save, behindSave, hSave, h⟩ := outcome_bind_eq_ok h
    obtain ⟨load, behindLoad, hLoad, h⟩ := outcome_bind_eq_ok h
    cases h
    exact .intro (outcome_attempt_eq_ok hEnd) (readHeader_eq_ok_iff.mp hHeader) hDecoded
      (outcome_attempt_eq_ok hArray) (outcome_attempt_eq_ok hSave) (outcome_attempt_eq_ok hLoad)
  · rintro ⟨hEnd, hHeader, hDecode, hArray, hSave, hLoad⟩
    rw [parse, read, outcome_attempt_bind_some hEnd, outcome_bind, readHeader_eq_ok_iff.mpr hHeader]
    dsimp only
    rw [outcome_lift_bind_ok hDecode, outcome_attempt_bind_some hArray,
      outcome_attempt_bind_some hSave, outcome_attempt_bind_some hLoad]
    rfl

end Container
end GuestPlugin
