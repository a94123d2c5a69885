import Mathlib.Data.List.Basic
import GuestPlugin.Proofs.Guest.Attach
import GuestPlugin.Proofs.Lookup

/-! # What calls leave behind in the guests

The calls of a run are replayed on the words of all guests, on the pages of theirs that the host sees,
and on the blocks mapped into them. Most calls change none of these. A mapping that is taken back by the
call that undoes it, with calls in between that change nothing, is the other way to leave no trace.
-/

set_option autoImplicit false

namespace GuestPlugin

open Program (Exchange)

/-- A stretch of a guest that the host sees at the same addresses. -/
structure Alias where
  guest : Guest
  address : UInt32
  size : UInt32
deriving DecidableEq

structure Mapping where
  guest : Guest
  handle : UInt32
  address : UInt32
deriving DecidableEq

/-- The words of all guests, and what is mapped between them and the host, latest first. -/
structure Guests where
  word : Guest → UInt32 → UInt32
  aliases : List Alias
  mappings : List Mapping

namespace Guests

def Shows (a : Alias) (address : UInt32) : Prop :=
  a.address.toNat ≤ address.toNat ∧ address.toNat < a.address.toNat + a.size.toNat

instance (a : Alias) (address : UInt32) : Decidable (Shows a address) :=
  inferInstanceAs (Decidable (_ ∧ _))

/-- A word is written through the latest alias that shows its address. -/
def write (g : Guests) (address value : UInt32) : Guests :=
  match g.aliases.find? fun a => Shows a address with
  | some shown => { g with
      word := fun guest place =>
        if guest = shown.guest ∧ place = address then value else g.word guest place }
  | none => g

def step (g : Guests) : Exchange → Guests
  | ⟨.writeWord address value, _⟩ => g.write address value
  | ⟨.mapGuest guest address size, .ok _⟩ =>
    { g with aliases := ⟨guest, address, size⟩ :: g.aliases }
  | ⟨.unmapGuest address size, _⟩ =>
    { g with aliases := g.aliases.eraseP fun a => a.address = address ∧ a.size = size }
  | ⟨.mapRegion guest block address, .ok _⟩ =>
    { g with mappings := ⟨guest, block.handle, address⟩ :: g.mappings }
  | ⟨.unmapRegion guest block address, _⟩ =>
    { g with mappings := g.mappings.erase ⟨guest, block.handle, address⟩ }
  | _ => g

def after (g : Guests) (calls : List Exchange) : Guests := calls.foldl step g

end Guests

/-- An exchange that changes nothing in any guest. Mappings that were refused are among them. -/
def Quiet : Exchange → Prop
  | ⟨.writeWord _ _, _⟩ => False
  | ⟨.mapGuest _ _ _, .ok _⟩ => False
  | ⟨.unmapGuest _ _, _⟩ => False
  | ⟨.mapRegion _ _ _, .ok _⟩ => False
  | ⟨.unmapRegion _ _ _, _⟩ => False
  | _ => True

def HostCall.IsFree : HostCall → Prop
  | .free _ => True
  | _ => False

theorem Guests.step_of_quiet {x : Exchange} (h : Quiet x) (g : Guests) : g.step x = g := by
  unfold step
  split
  · exact h.elim
  · exact h.elim
  · exact h.elim
  · exact h.elim
  · exact h.elim
  · rfl

theorem Guests.after_of_quiet {calls : List Exchange} (h : ∀ x ∈ calls, Quiet x) (g : Guests) :
    g.after calls = g := by
  induction calls with
  | nil => rfl
  | cons x rest ih =>
    obtain ⟨hHead, hRest⟩ := List.forall_mem_cons.mp h
    rw [after, List.foldl_cons, step_of_quiet hHead]
    exact ih hRest

theorem quiet_of_isStorage (x : Exchange) (h : x.1.IsStorage) : Quiet x :=
  h.of_exchange (fun _ _ => trivial) (fun _ _ _ => trivial) fun _ _ => trivial

theorem Reservation.quiet_releaseCalls (held : Option Region) :
    ∀ x ∈ releaseCalls held, Quiet x :=
  forall_mem_releaseCalls held fun _ => trivial

/-- Calls after which every guest is as it was. The block of a mapping that was taken back is freed
next. -/
inductive Undone : List Exchange → Prop where
  | quiet {calls : List Exchange} (h : ∀ x ∈ calls, Quiet x) : Undone calls
  | unmapped {before middle : List Exchange} (guest : Guest) (block : Block) (address : UInt32)
      (hBefore : ∀ x ∈ before, Quiet x) (hMiddle : ∀ x ∈ middle, Quiet x ∧ ¬ x.1.IsFree) :
      Undone (before ++ ⟨.mapRegion guest block address, .ok ()⟩ ::
        (middle ++ [⟨.unmapRegion guest block address, ()⟩, ⟨.free block, ()⟩]))

namespace Undone

variable {calls : List Exchange}

theorem prepend {before : List Exchange} (hBefore : ∀ x ∈ before, Quiet x) (h : Undone calls) :
    Undone (before ++ calls) := by
  cases h with
  | quiet hCalls => exact .quiet (List.forall_mem_append.mpr ⟨hBefore, hCalls⟩)
  | unmapped guest block address hFirst hMiddle =>
    rw [← List.append_assoc]
    exact .unmapped guest block address (List.forall_mem_append.mpr ⟨hBefore, hFirst⟩) hMiddle

theorem writeWord_notMem (h : Undone calls) (address value : UInt32) :
    (⟨.writeWord address value, ()⟩ : Exchange) ∉ calls := by
  intro hWrite
  cases h with
  | quiet hCalls => exact hCalls _ hWrite
  | unmapped guest block place hBefore hMiddle =>
    rcases List.mem_append.mp hWrite with hFirst | hLater
    · exact hBefore _ hFirst
    rcases List.mem_cons.mp hLater with hMap | hLater
    · cases hMap
    rcases List.mem_append.mp hLater with hInner | hEnd
    · exact (hMiddle _ hInner).1
    · simp at hEnd

theorem after_eq (h : Undone calls) (g : Guests) : g.after calls = g := by
  cases h with
  | quiet hCalls => exact Guests.after_of_quiet hCalls g
  | @unmapped before middle guest block address hBefore hMiddle =>
    have hFirst : g.after before = g := Guests.after_of_quiet hBefore g
    have hInner (g' : Guests) : g'.after middle = g' :=
      Guests.after_of_quiet (fun x hx => (hMiddle x hx).1) g'
    simp only [Guests.after, List.foldl_append, List.foldl_cons, List.foldl_nil] at hFirst hInner ⊢
    rw [hFirst, hInner]
    simp only [Guests.step, List.erase_cons_head]

/-- A mapping that was made has been taken back, and its block was freed only then. -/
theorem unmap_of_map (h : Undone calls) {before later : List Exchange} {guest : Guest}
    {block : Block} {address : UInt32}
    (hMap : calls = before ++ ⟨.mapRegion guest block address, .ok ()⟩ :: later) :
    ∃ middle, later = middle ++ [⟨.unmapRegion guest block address, ()⟩, ⟨.free block, ()⟩] ∧
      ∀ x ∈ middle, ¬ x.1.IsFree := by
  have hNotQuiet : ¬ Quiet ⟨.mapRegion guest block address, .ok ()⟩ := id
  cases h with
  | quiet hCalls =>
    refine absurd (hCalls _ ?_) hNotQuiet
    rw [hMap]
    exact List.mem_append_right _ List.mem_cons_self
  | @unmapped first middle guest' block' address' hFirst hMiddle =>
    -- No other mapping is made, so the two ways of cutting the calls are one.
    have hBefore : (⟨.mapRegion guest block address, .ok ()⟩ : Exchange) ∉ first :=
      fun hMem => hNotQuiet (hFirst _ hMem)
    have hLater : (⟨.mapRegion guest block address, .ok ()⟩ : Exchange) ∉
        middle ++ [⟨.unmapRegion guest' block' address', ()⟩, ⟨.free block', ()⟩] := by
      intro hMem
      rcases List.mem_append.mp hMem with hInner | hEnd
      · exact hNotQuiet (hMiddle _ hInner).1
      · simp at hEnd
    obtain ⟨_, hSame, hRest⟩ := (List.append_cons_inj_of_notMem hBefore hLater).mp hMap
    cases hSame
    exact ⟨middle, hRest.symm, fun x hx => (hMiddle x hx).2⟩

end Undone

theorem Attach.Course.undone {config : Config} {guest : Guest} {block : Block}
    {calls : List Exchange} {cause : ResourceError}
    (h : Attach.Course config guest block calls (.error cause)) :
    Undone (calls ++ [⟨.free block, ()⟩]) := by
  have hControl : ∀ x ∈ controlCalls guest, Quiet x :=
    List.forall_mem_cons.mpr ⟨trivial, List.forall_mem_singleton.mpr trivial⟩
  have hFree : ∀ x ∈ [(⟨.free block, ()⟩ : Exchange)], Quiet x :=
    List.forall_mem_singleton.mpr trivial
  cases h with
  | unprotectRefused code =>
    exact .quiet (List.forall_mem_cons.mpr ⟨trivial, hFree⟩)
  | signalRefused code =>
    exact .quiet (List.forall_mem_cons.mpr ⟨trivial, List.forall_mem_cons.mpr ⟨trivial, hFree⟩⟩)
  | mappingRefused code =>
    rw [List.append_assoc]
    exact .prepend hControl (.quiet (List.forall_mem_cons.mpr ⟨trivial, hFree⟩))
  | pageRefused code =>
    rw [List.append_assoc]
    have hPage : ∀ x ∈ [EntryHook.mapPage guest config.entryAddress (.error code)],
        Quiet x ∧ ¬ x.1.IsFree := List.forall_mem_singleton.mpr ⟨trivial, id⟩
    exact .unmapped guest block config.heapAddress hControl hPage

end GuestPlugin
