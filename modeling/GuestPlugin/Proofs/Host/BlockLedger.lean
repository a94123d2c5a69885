import GuestPlugin.Proofs.Host.Inversion
import GuestPlugin.Proofs.Lookup

/-! # The blocks that are out of the pool

Calls are replayed on the handles of the blocks that were granted and not given back. `Orderly` is the
discipline of a host with room for one: a block is granted only when none is out, and only the one that
is out is given back. It composes, and everything about double frees and second blocks follows from it.
-/

set_option autoImplicit false

namespace GuestPlugin

open Program (Exchange)

namespace BlockLedger

def record (live : List UInt32) : Exchange → List UInt32
  | ⟨.allocate _, .ok block⟩ => block.handle :: live
  | ⟨.free block, _⟩ => live.erase block.handle
  | _ => live

/-- The handles of the blocks that calls took and did not give back, latest first. -/
def live (calls : List Exchange) : List UInt32 := calls.foldl record []

def Neutral : Exchange → Prop
  | ⟨.allocate _, .ok _⟩ => False
  | ⟨.free _, _⟩ => False
  | _ => True

inductive Orderly : Option UInt32 → List Exchange → Option UInt32 → Prop where
  | done (held : Option UInt32) : Orderly held [] held
  | take {size : UInt32} {block : Block} {calls : List Exchange} {stop : Option UInt32}
      (h : Orderly (some block.handle) calls stop) :
      Orderly none (⟨.allocate size, .ok block⟩ :: calls) stop
  | give {block : Block} {calls : List Exchange} {stop : Option UInt32}
      (h : Orderly none calls stop) :
      Orderly (some block.handle) (⟨.free block, ()⟩ :: calls) stop
  | pass {x : Exchange} {held : Option UInt32} {calls : List Exchange} {stop : Option UInt32}
      (hNeutral : Neutral x) (h : Orderly held calls stop) : Orderly held (x :: calls) stop

theorem record_of_neutral {x : Exchange} (h : Neutral x) (live : List UInt32) :
    record live x = live := by
  unfold record
  split
  · exact h.elim
  · exact h.elim
  · rfl

theorem neutral_of_isStorage (x : Exchange) (h : x.1.IsStorage) : Neutral x :=
  h.of_exchange (fun _ _ => trivial) (fun _ _ _ => trivial) fun _ _ => trivial

namespace Orderly

variable {start middle stop : Option UInt32} {calls before later : List Exchange}

theorem of_neutral (h : ∀ x ∈ calls, Neutral x) (held : Option UInt32) :
    Orderly held calls held := by
  induction calls with
  | nil => exact .done held
  | cons x rest ih =>
    obtain ⟨hHead, hRest⟩ := List.forall_mem_cons.mp h
    exact .pass hHead (ih hRest)

theorem append (hFirst : Orderly start before middle) (hSecond : Orderly middle later stop) :
    Orderly start (before ++ later) stop := by
  induction hFirst with
  | done held => exact hSecond
  | take _ ih => exact .take (ih hSecond)
  | give _ ih => exact .give (ih hSecond)
  | pass hNeutral _ ih => exact .pass hNeutral (ih hSecond)

theorem split (h : Orderly start (before ++ later) stop) :
    ∃ middle, Orderly start before middle ∧ Orderly middle later stop := by
  induction before generalizing start with
  | nil => exact ⟨start, .done start, h⟩
  | cons x rest ih =>
    cases h with
    | take h =>
      obtain ⟨middle, hRest, hLater⟩ := ih h
      exact ⟨middle, .take hRest, hLater⟩
    | give h =>
      obtain ⟨middle, hRest, hLater⟩ := ih h
      exact ⟨middle, .give hRest, hLater⟩
    | pass hNeutral h =>
      obtain ⟨middle, hRest, hLater⟩ := ih h
      exact ⟨middle, .pass hNeutral hRest, hLater⟩

/-- Along orderly calls the ledger holds the handle that is out, and nothing else. -/
theorem foldl_record (h : Orderly start calls stop) :
    calls.foldl record start.toList = stop.toList := by
  induction h with
  | done held => rfl
  | take _ ih => exact ih
  | @give block calls stop _ ih =>
    rw [List.foldl_cons]
    have hErase : record (some block.handle).toList ⟨.free block, ()⟩ = [] := by
      simp [record]
    rw [hErase]
    exact ih
  | pass hNeutral _ ih =>
    rw [List.foldl_cons, record_of_neutral hNeutral]
    exact ih

theorem live_eq (h : Orderly none calls stop) : live calls = stop.toList := h.foldl_record

theorem length_live_le (h : Orderly none (before ++ later) stop) : (live before).length ≤ 1 := by
  obtain ⟨middle, hBefore, _⟩ := h.split
  rw [hBefore.live_eq]
  cases middle with
  | none => exact Nat.zero_le 1
  | some handle => exact Nat.le_refl 1

/-- A block that is given back is the one that is out at that moment. -/
theorem live_of_free {block : Block} (h : Orderly none (before ++ ⟨.free block, ()⟩ :: later) stop) :
    live before = [block.handle] := by
  obtain ⟨middle, hBefore, hFree⟩ := h.split
  rw [hBefore.live_eq]
  cases hFree with
  | give _ => rfl
  | pass hNeutral _ => exact hNeutral.elim

end Orderly
end BlockLedger
end GuestPlugin
