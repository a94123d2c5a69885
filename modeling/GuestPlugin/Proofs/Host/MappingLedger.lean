import GuestPlugin.Proofs.Guest.Footprint

/-! # The mappings of the block that is out

Calls are replayed on the mappings of blocks into guests. A mapping leaves the ledger when it is undone,
and at the latest with its block: the next block of the same handle is another one. A block that is freed
while mappings of it are on the ledger leaves guests with memory that is no longer theirs, so `Tended`
asks that the ledger is empty at each free.
-/

set_option autoImplicit false

namespace GuestPlugin

open Program (Exchange)

namespace MappingLedger

def record (standing : List Mapping) : Exchange → List Mapping
  | ⟨.mapRegion guest block address, .ok _⟩ => ⟨guest, block.handle, address⟩ :: standing
  | ⟨.unmapRegion guest block address, _⟩ => standing.erase ⟨guest, block.handle, address⟩
  | ⟨.free block, _⟩ => standing.filter fun m => m.handle ≠ block.handle
  | _ => standing

/-- The mappings that calls made and did not undo, of blocks that were not freed since. -/
def standing (calls : List Exchange) : List Mapping := calls.foldl record []

def Calm : Exchange → Prop
  | ⟨.mapRegion _ _ _, .ok _⟩ => False
  | ⟨.unmapRegion _ _ _, _⟩ => False
  | ⟨.free _, _⟩ => False
  | _ => True

/-- Calls that lead from one ledger to another and free blocks only while it is empty. -/
def Tended (start : List Mapping) : List Exchange → List Mapping → Prop
  | [], stop => start = stop
  | x :: rest, stop => (x.1.IsFree → start = []) ∧ Tended (record start x) rest stop

theorem record_of_calm {x : Exchange} (h : Calm x) (standing : List Mapping) :
    record standing x = standing := by
  unfold record
  split
  · exact h.elim
  · exact h.elim
  · exact h.elim
  · rfl

theorem foldl_record_of_calm {calls : List Exchange} (h : ∀ x ∈ calls, Calm x)
    (standing : List Mapping) : calls.foldl record standing = standing := by
  induction calls with
  | nil => rfl
  | cons x rest ih =>
    obtain ⟨hHead, hRest⟩ := List.forall_mem_cons.mp h
    rw [List.foldl_cons, record_of_calm hHead]
    exact ih hRest

theorem not_isFree_of_calm {x : Exchange} (h : Calm x) : ¬ x.1.IsFree := by
  obtain ⟨c, answer⟩ := x
  intro hFree
  cases c with
  | free block => exact h
  | _ => exact hFree

theorem calm_of_isStorage (x : Exchange) (h : x.1.IsStorage) : Calm x :=
  h.of_exchange (fun _ _ => trivial) (fun _ _ _ => trivial) fun _ _ => trivial

namespace Tended

variable {start middle stop : List Mapping} {calls before later : List Exchange}

theorem append (hFirst : Tended start before middle) (hSecond : Tended middle later stop) :
    Tended start (before ++ later) stop := by
  induction before generalizing start with
  | nil =>
    cases hFirst
    exact hSecond
  | cons x rest ih => exact ⟨hFirst.1, ih hFirst.2⟩

theorem foldl_record (h : Tended start calls stop) : calls.foldl record start = stop := by
  induction calls generalizing start with
  | nil => exact h
  | cons x rest ih => exact ih h.2

/-- Whenever a block is freed, no mapping stands. -/
theorem foldl_record_of_free {block : Block}
    (h : Tended start (before ++ ⟨.free block, ()⟩ :: later) stop) :
    before.foldl record start = [] := by
  induction before generalizing start with
  | nil => exact h.1 trivial
  | cons x rest ih => exact ih h.2

end Tended
end MappingLedger
end GuestPlugin
