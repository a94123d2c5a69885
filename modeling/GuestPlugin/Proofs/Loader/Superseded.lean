import GuestPlugin.Proofs.Host.MappingLedger
import GuestPlugin.Proofs.Host.Script
import GuestPlugin.Proofs.Loader.Lifecycle

/-! # Blocks that are freed while a guest has them mapped

A load that fails takes its mapping back before it frees the block. The block of an attached plugin is
another matter: the next load frees it, and so does the exit of a guest, but neither undoes the mapping,
since a loader does not remember into which guest it mapped what it holds. So for each block that is freed
it is known which mappings of it stand: none, or the one that attached the plugin.
-/

set_option autoImplicit false

namespace GuestPlugin

open Program MappingLedger

theorem Attach.Course.tended_error {config : Config} {guest : Guest} {block : Block}
    {calls : List Exchange} {cause : ResourceError}
    (h : Attach.Course config guest block calls (.error cause)) : Tended [] calls [] := by
  cases h <;> simp [Tended, record, controlCalls, EntryHook.mapPage, HostCall.IsFree]

theorem Attach.Course.tended_ok {config : Config} {guest : Guest} {block : Block}
    {calls : List Exchange} {saved : SavedEntry}
    (h : Attach.Course config guest block calls (.ok saved)) :
    Tended [] calls [⟨guest, block.handle, config.heapAddress⟩] := by
  cases h
  simp [Tended, record, controlCalls, EntryHook.mapPage, EntryHook.readCalls, EntryHook.writeCalls,
    EntryHook.unmapPage, HostCall.IsFree]

theorem EntryHook.Restored.calm {guest : Guest} {saved : SavedEntry} {calls : List Exchange}
    {outcome : Except ResultCode Unit} (h : EntryHook.Restored guest saved calls outcome) :
    ∀ x ∈ calls, Calm x := by
  cases h <;> simp [mapPage, writeCalls, unmapPage, Calm]

namespace Loader

variable {l l' : Loader} {guest : Guest} {homebrew : Bool} {calls : List Exchange}
  {events : List Event}

/-! ## What one operation does -/

/-- Calls that give back what was held, and tend the ledger from there on. -/
def Turnover (held : Option Region) (calls : List Exchange) (stop : List Mapping) : Prop :=
  ∃ first rest, calls = first ++ Reservation.releaseCalls held ++ rest ∧ (∀ x ∈ first, Calm x) ∧
    Tended [] rest stop

theorem Opened.calm_calls (o : Opened l) : ∀ x ∈ o.calls guest, Calm x :=
  o.forall_mem_calls trivial calm_of_isStorage

theorem turnover_of_calm {first : List Exchange} (h : ∀ x ∈ first, Calm x) (held : Option Region) :
    Turnover held (first ++ Reservation.releaseCalls held) [] :=
  ⟨first, [], (List.append_nil _).symm, h, rfl⟩

theorem Granted.turnover (g : Granted l homebrew) {rest : List Exchange} {stop : List Mapping}
    (h : Tended [] rest stop) : Turnover l.held (g.calls guest ++ rest) stop := by
  refine ⟨g.toOpened.calls guest, ⟨.allocate g.toAdmitted.size, .ok g.block⟩ :: rest, ?_,
    g.toOpened.calm_calls, ⟨nofun, h⟩⟩
  simp [Granted.calls]

theorem tended_release (region : Region) : Tended [] (Reservation.releaseCalls (some region)) [] :=
  ⟨fun _ => rfl, rfl⟩

/-- A load that fails tends the ledger once it has given back what was held before. -/
theorem Course.turnover_error {cause : LoadError}
    (h : Course l guest homebrew calls events (.error cause) l') :
    Turnover l.held (calls ++ Reservation.releaseCalls l'.held) [] := by
  cases h with
  | unidentified code =>
    refine turnover_of_calm ?_ _
    exact List.forall_mem_singleton.mpr trivial
  | unopened hLookup =>
    refine turnover_of_calm ?_ _
    exact forall_mem_search hLookup trivial calm_of_isStorage
  | unreadable o hParse => exact turnover_of_calm o.calm_calls _
  | refused o hParse hAdmission => exact turnover_of_calm o.calm_calls _
  | unreserved a code =>
    exact ⟨a.toOpened.calls guest, [⟨.allocate a.size, .error code⟩], List.append_nil _,
      a.toOpened.calm_calls, nofun, rfl⟩
  | unstaged g hStage => exact g.turnover (tended_release _)
  | unattached r hAttach =>
    rw [List.append_assoc]
    exact r.turnover (hAttach.tended_error.append (tended_release _))

theorem Course.turnover_ok (h : Course l guest homebrew calls events (.ok ()) l') :
    ∃ region, l'.held = some region ∧
      Turnover l.held calls [⟨guest, region.handle, l.config.heapAddress⟩] := by
  cases h with
  | attached r hAttach => exact ⟨r.region, rfl, r.turnover hAttach.tended_ok⟩

theorem Attempt.turnover_error {cause : LoadError}
    (h : Attempt l guest homebrew calls events (.error cause) l') :
    l'.held = none ∧ Turnover l.held calls [] := by
  cases h with
  | failed hCourse => exact ⟨rfl, hCourse.turnover_error⟩

theorem Attempt.turnover_ok (h : Attempt l guest homebrew calls events (.ok ()) l') :
    ∃ region, l'.held = some region ∧
      Turnover l.held calls [⟨guest, region.handle, l.config.heapAddress⟩] := by
  cases h with
  | succeeded hCourse => exact hCourse.turnover_ok

/-! ## What stands between operations -/

/-- The operations that give back what is held. -/
def Operation.Releases : Operation → Prop
  | .tryLoad _ _ => True
  | .load _ _ => True
  | .guestExit => True
  | _ => False

/-- A step in which a plugin was attached to this guest. -/
def Step.Attaches (s : Step) (guest : Guest) : Prop :=
  ∃ homebrew, (s.operation = .tryLoad guest homebrew ∨ s.operation = .load guest homebrew) ∧
    Runs ((tryLoad guest homebrew).run s.before) s.calls s.events (some (.ok (), s.after))

def AttachedTo (steps : List Step) (guest : Guest) : Prop :=
  ∃ earlier step later, steps = earlier ++ step :: later ∧ step.Attaches guest ∧
    ∀ s ∈ later, ¬ s.operation.Releases

theorem AttachedTo.snoc {steps : List Step} {step : Step} (h : AttachedTo steps guest)
    (hStep : ¬ step.operation.Releases) : AttachedTo (steps ++ [step]) guest := by
  obtain ⟨earlier, attaching, later, rfl, hAttaches, hLater⟩ := h
  refine ⟨earlier, attaching, later ++ [step], by simp, hAttaches, ?_⟩
  exact List.forall_mem_append.mpr ⟨hLater, List.forall_mem_singleton.mpr hStep⟩

theorem Step.Attaches.attachedTo {step : Step} (h : step.Attaches guest) (steps : List Step) :
    AttachedTo (steps ++ [step]) guest :=
  ⟨steps, step, [], rfl, h, List.forall_mem_nil _⟩

/-- The mappings that stand between operations, given what is held. -/
inductive Stands (config : Config) (steps : List Step) : Option Region → List Mapping → Prop where
  | nothing : Stands config steps none []
  | region {region : Region} {guest : Guest} (h : AttachedTo steps guest) :
      Stands config steps (some region) [⟨guest, region.handle, config.heapAddress⟩]

theorem Stands.snoc {config : Config} {steps : List Step} {step : Step} {held : Option Region}
    {start : List Mapping} (h : Stands config steps held start)
    (hStep : ¬ step.operation.Releases) : Stands config (steps ++ [step]) held start := by
  cases h with
  | nothing => exact .nothing
  | region hAttached => exact .region (hAttached.snoc hStep)

/-- A step leaves nothing held, attaches a plugin, or changes nothing that is held or mapped. -/
theorem Step.turnover_cases (s : Step) :
    (s.operation.Releases ∧ s.after.held = none ∧ Turnover s.before.held s.calls []) ∨
    (s.operation.Releases ∧ ∃ guest region, s.Attaches guest ∧ s.after.held = some region ∧
      Turnover s.before.held s.calls [⟨guest, region.handle, s.before.config.heapAddress⟩]) ∨
    (¬ s.operation.Releases ∧ s.after.held = s.before.held ∧ ∀ x ∈ s.calls, Calm x) := by
  obtain ⟨operation, before, calls, events, outcome, after, performed⟩ := s
  cases performed_of_runs performed with
  | @tryLoad _ _ _ _ answer _ h =>
    rcases answer with cause | _
    · exact .inl ⟨trivial, (attempt_of_runs h).turnover_error⟩
    · obtain ⟨region, hHeld, hTurnover⟩ := (attempt_of_runs h).turnover_ok
      exact .inr (.inl ⟨trivial, _, region, ⟨_, .inl rfl, h⟩, hHeld, hTurnover⟩)
  | @load _ _ _ _ answer _ h =>
    rcases answer with cause | _
    · exact .inl ⟨trivial, (attempt_of_runs h).turnover_error⟩
    · obtain ⟨region, hHeld, hTurnover⟩ := (attempt_of_runs h).turnover_ok
      exact .inr (.inl ⟨trivial, _, region, ⟨_, .inr rfl, h⟩, hHeld, hTurnover⟩)
  | setForced forced => exact .inr (.inr ⟨id, rfl, List.forall_mem_nil _⟩)
  | unhooked guest h => exact .inr (.inr ⟨id, rfl, List.forall_mem_nil _⟩)
  | unrestored hSaved h => exact .inr (.inr ⟨id, rfl, h.calm⟩)
  | restored hSaved h => exact .inr (.inr ⟨id, rfl, h.calm⟩)
  | guestExit =>
    exact .inl ⟨trivial, rfl, turnover_of_calm (List.forall_mem_nil _) before.held⟩

theorem Stands.foldl_release {config : Config} {steps : List Step} {held : Option Region}
    {start : List Mapping} (h : Stands config steps held start) :
    (Reservation.releaseCalls held).foldl record start = [] := by
  cases h with
  | nothing => rfl
  | region hAttached => simp [Reservation.releaseCalls, record]

theorem Turnover.foldl_record {held : Option Region} {start stop : List Mapping}
    (h : Turnover held calls stop) (hStart : (Reservation.releaseCalls held).foldl record start = []) :
    calls.foldl record start = stop := by
  obtain ⟨first, rest, rfl, hFirst, hRest⟩ := h
  rw [List.foldl_append, List.foldl_append, foldl_record_of_calm hFirst, hStart, hRest.foldl_record]

theorem standing_append (before later : List Exchange) :
    standing (before ++ later) = later.foldl record (standing before) :=
  List.foldl_append

theorem History.stands {config : Config} {steps : List Step} (h : History config steps l) :
    Stands config steps l.held (standing (callsOf steps)) := by
  induction h with
  | new => exact .nothing
  | @next steps step hHistory ih =>
    rw [callsOf_snoc, standing_append]
    rcases step.turnover_cases with ⟨_, hHeld, hTurnover⟩ |
      ⟨_, guest, region, hAttaches, hHeld, hTurnover⟩ | ⟨hKeeps, hHeld, hCalm⟩
    · rw [hHeld, hTurnover.foldl_record ih.foldl_release]
      exact .nothing
    · rw [hHeld, hTurnover.foldl_record ih.foldl_release, hHistory.settled.sameConfig]
      exact .region (hAttaches.attachedTo steps)
    · rw [hHeld, foldl_record_of_calm hCalm]
      exact ih.snoc hKeeps

/-! ## What stands when a block is freed -/

/-- A block that is freed is the one held before, or a later one, and then no mapping stands. -/
theorem Turnover.free_cases {held : Option Region} {stop start : List Mapping}
    {inside later : List Exchange} {block : Block} (h : Turnover held calls stop)
    (hStart : (Reservation.releaseCalls held).foldl record start = [])
    (hFree : calls = inside ++ ⟨.free block, ()⟩ :: later) :
    (∃ region, held = some region ∧ block = region.toBlock ∧ ∀ x ∈ inside, Calm x) ∨
    ((held = none ∨ ∃ x ∈ inside, x.1.IsFree) ∧ inside.foldl record start = []) := by
  obtain ⟨first, rest, rfl, hFirst, hRest⟩ := h
  rw [List.append_assoc] at hFree
  have hCalm : (⟨.free block, ()⟩ : Exchange) ∉ first := fun hMember => hFirst _ hMember
  obtain ⟨inner, rfl, hTail⟩ := exists_append_of_notMem hCalm hFree
  cases held with
  | none =>
    have hStart : start = [] := hStart
    have hRest : Tended [] (inner ++ ⟨.free block, ()⟩ :: later) stop := by
      rw [← hTail]
      exact hRest
    refine .inr ⟨.inl rfl, ?_⟩
    rw [List.foldl_append, foldl_record_of_calm hFirst, hStart, hRest.foldl_record_of_free]
  | some region =>
    cases inner with
    | nil =>
      cases hTail
      refine .inl ⟨region, rfl, rfl, ?_⟩
      rw [List.append_nil]
      exact hFirst
    | cons x inner =>
      obtain ⟨rfl, rfl⟩ := List.cons.inj hTail
      refine .inr ⟨.inr ⟨_, List.mem_append_right _ List.mem_cons_self, trivial⟩, ?_⟩
      rw [List.foldl_append, foldl_record_of_calm hFirst, List.foldl_cons]
      have hRelease : record start ⟨.free region.toBlock, ()⟩ = [] := hStart
      rw [hRelease, hRest.foldl_record_of_free]

theorem Step.exists_turnover {step : Step} (h : step.operation.Releases) :
    ∃ stop, Turnover step.before.held step.calls stop := by
  rcases step.turnover_cases with ⟨_, _, hTurnover⟩ | ⟨_, _, _, _, _, hTurnover⟩ | ⟨hKeeps, _⟩
  · exact ⟨_, hTurnover⟩
  · exact ⟨_, hTurnover⟩
  · exact absurd h hKeeps

theorem Step.releases_of_free {step : Step} {block : Block}
    (hFree : ⟨.free block, ()⟩ ∈ step.calls) : step.operation.Releases := by
  rcases step.turnover_cases with ⟨hReleases, _⟩ | ⟨hReleases, _⟩ | ⟨_, _, hCalm⟩
  · exact hReleases
  · exact hReleases
  · exact (hCalm _ hFree).elim

theorem Stands.exists_guest {config : Config} {steps : List Step} {region : Region}
    {start : List Mapping} (h : Stands config steps (some region) start) :
    ∃ guest, AttachedTo steps guest ∧ start = [⟨guest, region.handle, config.heapAddress⟩] := by
  cases h with
  | region hAttached => exact ⟨_, hAttached, rfl⟩

/-- When a block is freed no mapping of it stands, unless it is the block of a plugin that an earlier
load attached. Then the operation that frees it is a later load or the exit of a guest, and the one
mapping that stands is the one into the guest of that earlier load. -/
theorem mappings_at_free {config : Config} {earlier : List Step} {step : Step}
    (h : History config earlier step.before) {inside later : List Exchange} {block : Block}
    (hFree : step.calls = inside ++ ⟨.free block, ()⟩ :: later) :
    ((step.before.held = none ∨ ∃ x ∈ inside, x.1.IsFree) ∧
      standing (callsOf earlier ++ inside) = []) ∨
    (∃ region guest, step.before.held = some region ∧ block = region.toBlock ∧
      (∀ x ∈ inside, ¬ x.1.IsFree) ∧ step.operation.Releases ∧ AttachedTo earlier guest ∧
      standing (callsOf earlier ++ inside) = [⟨guest, block.handle, config.heapAddress⟩]) := by
  have hStands := h.stands
  have hMember : (⟨.free block, ()⟩ : Exchange) ∈ step.calls := by simp [hFree]
  have hReleases := Step.releases_of_free hMember
  obtain ⟨_, hTurnover⟩ := Step.exists_turnover hReleases
  rw [standing_append]
  rcases hTurnover.free_cases hStands.foldl_release hFree with
    ⟨region, hHeld, rfl, hCalm⟩ | ⟨hLater, hNone⟩
  · rw [hHeld] at hStands
    obtain ⟨guest, hAttached, hStart⟩ := hStands.exists_guest
    refine .inr ⟨region, guest, hHeld, rfl, ?_, hReleases, hAttached, ?_⟩
    · exact fun x hx => not_isFree_of_calm (hCalm x hx)
    · rw [foldl_record_of_calm hCalm, hStart]
  · exact .inl ⟨hLater, hNone⟩

theorem exists_attaching_step :
    ∃ s : Step, s.before = .new tightConfig ∧ s.operation = .tryLoad ⟨1⟩ false ∧
      s.Attaches ⟨1⟩ := by
  obtain ⟨calls, events, l', hRuns⟩ := exists_runs_tryLoad_ok
  exact ⟨⟨_, _, calls, events, _, l', runs_perform_tryLoad hRuns⟩, rfl, rfl, false, .inl rfl, hRuns⟩

/-- A load can begin while a plugin is attached, and it gives back the region of that plugin. -/
theorem exists_superseding_step :
    ∃ (attaching step : Step) (region : Region) (inside later : List Exchange),
      History tightConfig [attaching] step.before ∧ attaching.operation = .tryLoad ⟨1⟩ false ∧
      attaching.Attaches ⟨1⟩ ∧ step.operation = .tryLoad ⟨1⟩ false ∧
      step.before.held = some region ∧
      step.calls = inside ++ ⟨.free region.toBlock, ()⟩ :: later ∧ ∀ x ∈ inside, Calm x := by
  obtain ⟨attaching, hNew, hFirst, hAttaches⟩ := exists_attaching_step
  obtain ⟨step, hOperation, hBefore⟩ := exists_step (.tryLoad ⟨1⟩ false) attaching.after
  have hStart : History tightConfig [] attaching.before := hNew ▸ .new
  have hHistory : History tightConfig [attaching] step.before := hBefore ▸ hStart.next attaching
  have hReleases : step.operation.Releases := by
    rw [hOperation]
    trivial
  obtain ⟨_, inside, rest, hCalls, hCalm, _⟩ := Step.exists_turnover hReleases
  obtain ⟨_, _, hRuns⟩ := id hAttaches
  obtain ⟨region, hHeld, _⟩ := (attempt_of_runs hRuns).turnover_ok
  rw [← hBefore] at hHeld
  rw [hHeld, Reservation.releaseCalls, List.append_assoc] at hCalls
  exact ⟨attaching, step, region, inside, rest, hHistory, hFirst, hAttaches, hOperation, hHeld,
    hCalls, hCalm⟩

theorem superseded_block_is_mapped :
    ∃ (earlier : List Step) (step : Step) (inside later : List Exchange) (block : Block),
      History tightConfig earlier step.before ∧
      step.calls = inside ++ ⟨.free block, ()⟩ :: later ∧
      ∃ guest, standing (callsOf earlier ++ inside) =
        [⟨guest, block.handle, tightConfig.heapAddress⟩] := by
  obtain ⟨attaching, step, region, inside, later, hHistory, _, _, _, hHeld, hFree, hCalm⟩ :=
    exists_superseding_step
  refine ⟨[attaching], step, inside, later, region.toBlock, hHistory, hFree, ?_⟩
  rcases mappings_at_free hHistory hFree with ⟨hNone | hLater, _⟩ | ⟨_, guest, _, _, _, _, _, hStanding⟩
  · cases hNone.symm.trans hHeld
  · obtain ⟨x, hx, hIsFree⟩ := hLater
    exact absurd hIsFree (not_isFree_of_calm (hCalm x hx))
  · exact ⟨guest, hStanding⟩

/-- Without any exit of a guest, a load can free a block of which a mapping stands. -/
theorem not_unmapped_at_every_free :
    ¬ ∀ (config : Config) (earlier : List Step) (step : Step) (inside later : List Exchange)
      (block : Block), History config earlier step.before →
      (∀ s ∈ earlier ++ [step], s.operation ≠ .guestExit) →
      step.calls = inside ++ ⟨.free block, ()⟩ :: later →
      ∀ m ∈ standing (callsOf earlier ++ inside), m.handle ≠ block.handle := by
  intro hClaim
  obtain ⟨attaching, step, region, inside, later, hHistory, hFirst, _, hSecond, hHeld, hFree, hCalm⟩ :=
    exists_superseding_step
  have hNoExit : ∀ s ∈ [attaching] ++ [step], s.operation ≠ .guestExit := by
    simp [hFirst, hSecond]
  have hStands := hHistory.stands
  rw [hHeld] at hStands
  obtain ⟨guest, _, hStart⟩ := hStands.exists_guest
  have hStanding : standing (callsOf [attaching] ++ inside) =
      [⟨guest, region.handle, tightConfig.heapAddress⟩] := by
    rw [standing_append, foldl_record_of_calm hCalm, hStart]
  refine hClaim tightConfig [attaching] step inside later region.toBlock hHistory hNoExit hFree
    ⟨guest, region.handle, tightConfig.heapAddress⟩ ?_ rfl
  rw [hStanding]
  exact List.mem_singleton_self _

end Loader
end GuestPlugin
