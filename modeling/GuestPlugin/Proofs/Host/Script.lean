import Mathlib.Data.List.Infix
import GuestPlugin.Host.Runs

/-! # Calls that follow a script

A script is the list of the calls that are made when nothing is refused. What is made of it is a beginning
that stops at the first refusal, so only its last call may have been refused. A script may also be left
without any refusal, where something fails that is not a call.
-/

set_option autoImplicit false

namespace GuestPlugin

open Program (Exchange)

/-- A call that ends a load by being refused. A search goes on when a file or a directory is refused, so
those are not counted. -/
def Refused : Exchange → Prop
  | ⟨.titleOf _, .error _⟩ => True
  | ⟨.allocate _, .error _⟩ => True
  | ⟨.control _ _, .error _⟩ => True
  | ⟨.mapRegion _ _ _, .error _⟩ => True
  | ⟨.mapGuest _ _ _, .error _⟩ => True
  | _ => False

structure Follows (script : List HostCall) (made : List Exchange) : Prop where
  inOrder : made.map (·.1) <+: script
  granted : ∀ x ∈ made.dropLast, ¬ Refused x

structure Fulfils (script : List HostCall) (made : List Exchange) : Prop where
  inOrder : made.map (·.1) = script
  granted : ∀ x ∈ made, ¬ Refused x

structure Halts (script : List HostCall) (made : List Exchange) : Prop extends Follows script made where
  refused : ∃ x, made.getLast? = some x ∧ Refused x

variable {script later : List HostCall} {made rest : List Exchange}

theorem fulfils_nil : Fulfils [] [] := ⟨rfl, List.forall_mem_nil _⟩

theorem Fulfils.append (h : Fulfils script made) (hRest : Fulfils later rest) :
    Fulfils (script ++ later) (made ++ rest) where
  inOrder := by rw [List.map_append, h.inOrder, hRest.inOrder]
  granted := List.forall_mem_append.mpr ⟨h.granted, hRest.granted⟩

theorem Fulfils.append_follows (h : Fulfils script made) (hRest : Follows later rest) :
    Follows (script ++ later) (made ++ rest) where
  inOrder := by
    rw [List.map_append, h.inOrder]
    exact (List.prefix_append_right_inj script).mpr hRest.inOrder
  granted x hx := by
    rw [List.dropLast_append] at hx
    split at hx
    · exact h.granted x (List.mem_of_mem_dropLast hx)
    · rcases List.mem_append.mp hx with hMade | hLast
      · exact h.granted x hMade
      · exact hRest.granted x hLast

theorem Halts.extend (h : Halts script made) (later : List HostCall) :
    Halts (script ++ later) made where
  inOrder := h.inOrder.trans (List.prefix_append script later)
  granted := h.granted
  refused := h.refused

theorem follows_singleton (x : Exchange) (later : List HostCall) : Follows (x.1 :: later) [x] where
  inOrder := ⟨later, rfl⟩
  granted := List.forall_mem_nil _

/-- Calls that were granted, and then one that was refused. -/
theorem Fulfils.halts (h : Fulfils script made) {x : Exchange} (hRefused : Refused x)
    (later : List HostCall) : Halts (script ++ x.1 :: later) (made ++ [x]) where
  toFollows := h.append_follows (follows_singleton x later)
  refused := ⟨x, List.getLast?_concat, hRefused⟩

theorem Fulfils.append_halts (h : Fulfils script made) (hRest : Halts later rest) :
    Halts (script ++ later) (made ++ rest) where
  toFollows := h.append_follows hRest.toFollows
  refused := by
    obtain ⟨x, hLast, hRefused⟩ := hRest.refused
    exact ⟨x, by simp [List.getLast?_append, hLast], hRefused⟩

/-- A call that does not occur among the first ones comes after them. -/
theorem exists_append_of_notMem {first tail inside behind : List Exchange} {x : Exchange}
    (hFirst : x ∉ first) (h : first ++ tail = inside ++ x :: behind) :
    ∃ inner, inside = first ++ inner ∧ tail = inner ++ x :: behind := by
  rcases List.append_eq_append_iff.mp h with ⟨inner, hInside, hTail⟩ | ⟨inner, hInside, hTail⟩
  · exact ⟨inner, hInside, hTail⟩
  · cases inner with
    | nil => exact ⟨[], by simpa using hInside.symm, by simpa using hTail.symm⟩
    | cons y inner =>
      obtain ⟨rfl, _⟩ := List.cons.inj hTail
      exact absurd (by simp [hInside]) hFirst

end GuestPlugin
