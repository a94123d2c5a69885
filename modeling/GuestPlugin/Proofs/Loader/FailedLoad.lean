import GuestPlugin.Proofs.Guest.Footprint
import GuestPlugin.Proofs.Loader.Operation

/-! # A load that fails leaves no trace in the guests

Up to the request for the mapping a load only looks, allocates and gives back. Behind it there is one
call left that may be refused, and then the mapping is taken back before the block is.
-/

set_option autoImplicit false

namespace GuestPlugin

open Program

namespace Loader

variable {l : Loader} {guest : Guest} {homebrew : Bool}

theorem Opened.quiet_calls (o : Opened l) : ∀ x ∈ o.calls guest, Quiet x :=
  o.forall_mem_calls trivial quiet_of_isStorage

theorem Admitted.quiet_calls (a : Admitted l homebrew) (answer : Except ResultCode Block) :
    ∀ x ∈ a.toOpened.calls guest ++ Reservation.releaseCalls l.held ++
      [(⟨.allocate a.size, answer⟩ : Exchange)], Quiet x :=
  a.forall_mem_calls trivial quiet_of_isStorage (fun _ => trivial) trivial

/-- Together with the release that follows it, a load that fails undoes what it did. -/
theorem Course.undone {calls : List Exchange} {events : List Event} {cause : LoadError}
    {l' : Loader} (h : Course l guest homebrew calls events (.error cause) l') :
    Undone (calls ++ Reservation.releaseCalls l'.held) := by
  have hQuiet {first : List Exchange} (hFirst : ∀ x ∈ first, Quiet x) (held : Option Region) :
      Undone (first ++ Reservation.releaseCalls held) :=
    .quiet (List.forall_mem_append.mpr ⟨hFirst, Reservation.quiet_releaseCalls held⟩)
  cases h with
  | unidentified code =>
    refine hQuiet ?_ _
    exact List.forall_mem_singleton.mpr trivial
  | unopened hLookup =>
    refine hQuiet ?_ _
    exact forall_mem_search hLookup trivial quiet_of_isStorage
  | unreadable o hParse => exact hQuiet o.quiet_calls _
  | refused o hParse hAdmission => exact hQuiet o.quiet_calls _
  | unreserved a code => exact hQuiet (a.quiet_calls _) _
  | unstaged g hStage => exact hQuiet (g.toAdmitted.quiet_calls _) _
  | unattached r hAttach =>
    rw [List.append_assoc]
    exact .prepend (r.toAdmitted.quiet_calls _) hAttach.undone

/-- An attempt to load that returns an error has written no word, and has left the words of every guest,
the pages that are shown and the blocks that are mapped as they were. A mapping it made was taken back
before the block behind it was freed, and nothing is held. -/
theorem tryLoad_error_leaves_guests {l' : Loader} {calls : List Exchange} {events : List Event}
    {cause : LoadError}
    (h : Runs ((tryLoad guest homebrew).run l) calls events (some (.error cause, l'))) :
    (∀ address value, (⟨.writeWord address value, ()⟩ : Exchange) ∉ calls) ∧
    (∀ g : Guests, g.after calls = g) ∧
    (∀ before later mapped block address,
      calls = before ++ ⟨.mapRegion mapped block address, .ok ()⟩ :: later →
        ∃ middle, later =
            middle ++ [⟨.unmapRegion mapped block address, ()⟩, ⟨.free block, ()⟩] ∧
          ∀ x ∈ middle, ¬ x.1.IsFree) ∧
    l'.held = none := by
  cases attempt_of_runs h with
  | failed hCourse =>
    have hUndone := hCourse.undone
    refine ⟨hUndone.writeWord_notMem, hUndone.after_eq, ?_, rfl⟩
    intro before later mapped block address hMap
    exact hUndone.unmap_of_map hMap

set_option maxRecDepth 100000 in
theorem exists_runs_refused_page :
    ∃ calls events l', Runs ((tryLoad ⟨1⟩ false).run (.new tightConfig)) calls events
      (some (.error (.resource (.entryMappingFailed ⟨5⟩)), l')) := by
  have hValue : (((tryLoad ⟨1⟩ false).run (.new tightConfig)).valueWith
      (onePluginHost (.error ⟨5⟩))).map (·.1) =
        some (.error (.resource (.entryMappingFailed ⟨5⟩))) := by decide +kernel
  obtain ⟨calls, events, ⟨outcome, l'⟩, hRuns, rfl⟩ := exists_runs_of_valueWith hValue
  exact ⟨calls, events, l', hRuns⟩

theorem refused_page_leaves_guests :
    ∃ calls events cause l',
      Runs ((tryLoad ⟨1⟩ false).run (.new tightConfig)) calls events (some (.error cause, l')) ∧
      (∀ address value, (⟨.writeWord address value, ()⟩ : Exchange) ∉ calls) ∧
      (∀ g : Guests, g.after calls = g) ∧ l'.held = none := by
  obtain ⟨calls, events, l', hRuns⟩ := exists_runs_refused_page
  obtain ⟨hWrite, hAfter, _, hHeld⟩ := tryLoad_error_leaves_guests hRuns
  exact ⟨calls, events, _, l', hRuns, hWrite, hAfter, hHeld⟩

end Loader
end GuestPlugin
