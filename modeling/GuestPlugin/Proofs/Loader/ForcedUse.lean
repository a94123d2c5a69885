import GuestPlugin.Proofs.Loader.EntryMemory
import GuestPlugin.Proofs.Loader.LoadedImage

/-! # What becomes of a forced load

A load uses the forced load if it is meant for the title. This shows in the calls: the forced file is
opened and nothing else is asked of the storage, whereas any other search begins with a directory. A forced
load that is not persistent is gone after the first load that used it, however that one ended.
-/

set_option autoImplicit false

namespace GuestPlugin

open Program

/-! ## Blocks that are handed over -/

def HostCall.block? : HostCall → Option Block
  | .free block => some block
  | .mapRegion _ block _ => some block
  | .unmapRegion _ block _ => some block
  | _ => none

def HostCall.IsControl : HostCall → Prop
  | .control _ _ => True
  | _ => False

/-- The block is read as a control block that hands these words to the plugin, and begins with the bytes
of it. -/
def Block.Carries (block : Block) (words : ConfigWords) : Prop :=
  ∃ b : ControlBlock, ControlBlock.read? block.memory = some b ∧ b.config = words ∧
    b.encode <+: block.memory.toList

/-- The blocks that are named once the kernel was asked to make way for the plugin carry these words. -/
def Hands (words : ConfigWords) (calls : List Exchange) : Prop :=
  ∀ earlier x later, calls = earlier ++ x :: later → x.1.IsControl →
    ∀ y ∈ later, ∀ block ∈ y.1.block?, block.Carries words

theorem hands_of_not_isControl {calls : List Exchange} (h : ∀ x ∈ calls, ¬ x.1.IsControl)
    (words : ConfigWords) : Hands words calls := by
  rintro earlier x later rfl hControl
  exact absurd hControl (h x (by simp))

theorem hands_append {first rest : List Exchange} {words : ConfigWords}
    (hFirst : ∀ x ∈ first, ¬ x.1.IsControl)
    (hRest : ∀ y ∈ rest, ∀ block ∈ y.1.block?, block.Carries words) :
    Hands words (first ++ rest) := by
  intro earlier x later hSplit hControl
  have hNever : x ∉ first := fun hMember => hFirst x hMember hControl
  obtain ⟨inner, rfl, rfl⟩ := exists_append_of_notMem hNever hSplit
  intro y hLater
  exact hRest y (by simp [hLater])

theorem not_isControl_of_isStorage (x : Exchange) (h : x.1.IsStorage) : ¬ x.1.IsControl := by
  refine h.of_exchange (P := fun x => ¬ x.1.IsControl) ?_ ?_ ?_
  · exact fun _ _ => id
  · exact fun _ _ _ => id
  · exact fun _ _ => id

theorem Attach.Course.names {config : Config} {guest : Guest} {block : Block}
    {calls : List Exchange} {outcome : Except ResourceError SavedEntry}
    (h : Attach.Course config guest block calls outcome) :
    ∀ x ∈ calls, ¬ x.1.IsStorage ∧ ∀ named ∈ x.1.block?, named = block := by
  cases h <;> simp [controlCalls, EntryHook.mapPage, EntryHook.readCalls, EntryHook.writeCalls,
    EntryHook.unmapPage, HostCall.IsStorage, HostCall.block?]

namespace Loader

variable {l l' : Loader} {guest : Guest} {homebrew : Bool} {calls : List Exchange}
  {events : List Event}

/-! ## The search of a load -/

theorem lookup_of_forced {title : TitleId} {forced : ForcedLoad} {searched : List Exchange}
    {result : Option (Except LookupError OpenedPlugin)} (hForced : l.forcedFor title = some forced)
    (h : Runs (l.lookup title) searched events result) :
    ∃ answer, searched = [⟨.openFile forced.path, answer⟩] := by
  rw [lookup, hForced] at h
  obtain ⟨answer, later, rfl, hRest⟩ := runs_ask_bind_iff.mp h
  refine ⟨answer, ?_⟩
  rcases answer with failure | stream
  · rw [(runs_pure_iff.mp hRest).1]
  · rw [(runs_pure_iff.mp hRest).1]

theorem lookup_of_unforced {title : TitleId} {searched : List Exchange}
    {result : Option (Except LookupError OpenedPlugin)} (hForced : l.forcedFor title = none)
    (h : Runs (l.lookup title) searched events result) :
    ∃ answer later, searched = ⟨.openDirectory (l.config.titleDirectory title), answer⟩ :: later := by
  rw [lookup, hForced] at h
  obtain ⟨answer, later, hCalls, _⟩ := runs_call_iff.mp h
  exact ⟨answer, later, hCalls⟩

/-- What a load asks of storage and kernel, hands over, and leaves of the forced load. -/
inductive Outline (l : Loader) (guest : Guest) (calls : List Exchange) (l' : Loader) : Prop where
  | unidentified {code : ResultCode} {rest : List Exchange}
      (hCalls : calls = ⟨.titleOf guest, .error code⟩ :: rest) (hHands : ∀ words, Hands words calls)
      (hHeld : l'.held = none) (hForced : l'.context.forced = l.context.forced)
  | identified {title : TitleId} {searched rest : List Exchange} {events : List Event}
      {found : Except LookupError OpenedPlugin}
      (hCalls : calls = ⟨.titleOf guest, .ok title⟩ :: (searched ++ rest))
      (hSearch : Runs (l.lookup title) searched events (some found))
      (hRest : ∀ x ∈ rest, ¬ x.1.IsStorage) (hHands : Hands (l.wordsFor title) calls)
      (hHeld : ∀ region ∈ l'.held, region.toBlock.Carries (l.wordsFor title))
      (hForced : l'.context.forced = (Context.takeForced title l.context.forced).2)

theorem Ready.carries (r : Ready l homebrew) : r.region.toBlock.Carries (l.wordsFor r.title) := by
  refine ⟨r.controlBlock, r.read?_memory, rfl, ?_⟩
  rw [r.toList_memory, List.append_assoc]
  exact List.prefix_append _ _

theorem Opened.outline (o : Opened l) {rest : List Exchange}
    (hRest : ∀ x ∈ rest, ¬ x.1.IsStorage) (hHands : Hands (l.wordsFor o.title) (o.calls guest ++ rest))
    (hHeld : ∀ region ∈ l'.held, region.toBlock.Carries (l.wordsFor o.title))
    (hForced : l'.context.forced = (Context.takeForced o.title l.context.forced).2) :
    Outline l guest (o.calls guest ++ rest) l' :=
  .identified rfl o.found hRest hHands hHeld hForced

/-- A load that fails before it attaches hands nothing over. -/
theorem Opened.outline_of_failing (o : Opened l) {rest : List Exchange} {cause : LoadError}
    (hRest : ∀ x ∈ rest, ¬ x.1.IsStorage ∧ ¬ x.1.IsControl)
    (hForced : l'.context.forced = (Context.takeForced o.title l.context.forced).2) :
    Outline l guest (o.calls guest ++ rest) (l'.failing cause) := by
  refine o.outline (fun x hx => (hRest x hx).1) (hands_of_not_isControl ?_ _) nofun hForced
  refine List.forall_mem_append.mpr ⟨?_, fun x hx => (hRest x hx).2⟩
  exact o.forall_mem_calls id not_isControl_of_isStorage

theorem releaseCalls_apart (held : Option Region) :
    ∀ x ∈ Reservation.releaseCalls held, ¬ x.1.IsStorage ∧ ¬ x.1.IsControl :=
  Reservation.forall_mem_releaseCalls held fun _ => ⟨id, id⟩

theorem forall_mem_taking {P : Exchange → Prop} {held : Option Region} {size : UInt32}
    {answer : Except ResultCode Block} {rest : List Exchange} (hFree : ∀ block, P ⟨.free block, ()⟩)
    (hAllocate : P ⟨.allocate size, answer⟩) (hRest : ∀ x ∈ rest, P x) :
    ∀ x ∈ Reservation.releaseCalls held ++ ([⟨.allocate size, answer⟩] ++ rest), P x := by
  refine List.forall_mem_append.mpr ⟨Reservation.forall_mem_releaseCalls held hFree, ?_⟩
  exact List.forall_mem_cons.mpr ⟨hAllocate, hRest⟩

/-- Once a region is ready, every block that is named is this region. -/
theorem Ready.outline (r : Ready l homebrew) {attaching : List Exchange}
    (hNames : ∀ x ∈ attaching, ¬ x.1.IsStorage ∧ ∀ named ∈ x.1.block?, named = r.region.toBlock)
    (hHeld : ∀ region ∈ l'.held, region = r.region)
    (hForced : l'.context.forced = (Context.takeForced r.title l.context.forced).2) :
    Outline l guest (r.calls guest ++ attaching) l' := by
  have hCarries : ∀ x ∈ attaching, ∀ block ∈ x.1.block?, block.Carries (l.wordsFor r.title) := by
    intro x hx block hBlock
    rw [(hNames x hx).2 block hBlock]
    exact r.carries
  have hHands : Hands (l.wordsFor r.title) (r.calls guest ++ attaching) := by
    refine hands_append ?_ hCarries
    exact r.toAdmitted.forall_mem_calls id not_isControl_of_isStorage (fun _ => id) id
  rw [Granted.calls, List.append_assoc, List.append_assoc] at hHands ⊢
  refine r.toOpened.outline ?_ hHands ?_ hForced
  · exact forall_mem_taking (fun _ => id) id fun x hx => (hNames x hx).1
  · intro region hRegion
    rw [hHeld region hRegion]
    exact r.carries

theorem Course.outline_error {cause : LoadError}
    (h : Course l guest homebrew calls events (.error cause) l') :
    Outline l guest (calls ++ Reservation.releaseCalls l'.held) (l'.failing cause) := by
  cases h with
  | unidentified code =>
    refine .unidentified rfl (hands_of_not_isControl ?_) rfl rfl
    exact List.forall_mem_cons.mpr ⟨id, fun x hx => (releaseCalls_apart _ x hx).2⟩
  | unopened hLookup =>
    refine .identified rfl hLookup ?_ (hands_of_not_isControl ?_ _) (by rintro _ ⟨⟩) rfl
    · exact fun x hx => (releaseCalls_apart _ x hx).1
    · refine List.forall_mem_append.mpr ⟨?_, fun x hx => (releaseCalls_apart _ x hx).2⟩
      exact forall_mem_search hLookup id not_isControl_of_isStorage
  | unreadable o hParse => exact o.outline_of_failing (releaseCalls_apart _) rfl
  | refused o hParse hAdmission => exact o.outline_of_failing (releaseCalls_apart _) rfl
  | unreserved a code =>
    rw [List.append_assoc, List.append_assoc]
    refine a.toOpened.outline_of_failing ?_ rfl
    exact forall_mem_taking (fun _ => ⟨id, id⟩) ⟨id, id⟩ (releaseCalls_apart _)
  | unstaged g hStage =>
    rw [Granted.calls, List.append_assoc, List.append_assoc]
    refine g.toOpened.outline_of_failing ?_ rfl
    exact forall_mem_taking (fun _ => ⟨id, id⟩) ⟨id, id⟩ (releaseCalls_apart _)
  | unattached r hAttach =>
    rw [List.append_assoc]
    refine r.outline (List.forall_mem_append.mpr ⟨hAttach.names, ?_⟩) (by rintro _ ⟨⟩) rfl
    exact List.forall_mem_singleton.mpr ⟨id, fun named hNamed => (Option.some.inj hNamed).symm⟩

theorem Course.outline_ok (h : Course l guest homebrew calls events (.ok ()) l') :
    Outline l guest calls (l'.inState .attached) := by
  cases h with
  | attached r hAttach =>
    exact r.outline hAttach.names (fun region hRegion => (Option.some.inj hRegion).symm) rfl

theorem Attempt.outline {answer : Except LoadError Unit}
    (h : Attempt l guest homebrew calls events answer l') : Outline l guest calls l' := by
  have hOutline : Outline l.refreshed guest calls l' := by
    cases h with
    | succeeded hCourse => exact hCourse.outline_ok
    | failed hCourse => exact hCourse.outline_error
  cases hOutline with
  | unidentified hCalls hHands hHeld hForced => exact .unidentified hCalls hHands hHeld hForced
  | identified hCalls hSearch hRest hHands hHeld hForced =>
    exact .identified hCalls hSearch hRest hHands hHeld hForced

/-! ## Steps that use a forced load -/

/-- The step asks for a title, opens the forced file, and asks for nothing else of the storage. -/
def Step.Uses (s : Step) (forced : ForcedLoad) : Prop :=
  ∃ guest title answer rest,
    s.calls = ⟨.titleOf guest, .ok title⟩ :: ⟨.openFile forced.path, answer⟩ :: rest ∧
      ∀ x ∈ rest, ¬ x.1.IsStorage

def Step.Identifies (s : Step) (title : TitleId) : Prop :=
  ∃ guest rest, s.calls = ⟨.titleOf guest, .ok title⟩ :: rest

/-- The control block of a load hands these words over: wherever its block is named once attaching began,
and in the region that is held in the end. -/
def Step.Prepares (s : Step) (words : ConfigWords) : Prop :=
  Hands words s.calls ∧ (s.operation.IsLoad → ∀ region ∈ s.after.held, region.toBlock.Carries words)

/-- How a step deals with a forced load that may be stored. -/
structure Step.Respects (s : Step) (forced : ForcedLoad) : Prop where
  used : s.Uses forced ↔ s.before.context.forced = some forced ∧
    ∃ title, s.Identifies title ∧ (forced.title? = none ∨ forced.title? = some title)
  isLoad : s.Uses forced → s.operation.IsLoad
  words : s.Uses forced → s.Prepares forced.words
  zeros : ¬ s.Uses forced → s.Prepares (Vector.replicate 32 0)
  taken : s.Uses forced →
    s.after.context.forced = if forced.persistent then some forced else none
  kept : ¬ s.Uses forced → s.after.context.forced = s.before.context.forced

theorem appliesTo_iff {forced : ForcedLoad} {title : TitleId} :
    forced.appliesTo title ↔ forced.title? = none ∨ forced.title? = some title := by
  rw [ForcedLoad.appliesTo]
  cases forced.title? <;> simp

/-- A step is a load, or asks for no title, hands nothing over and keeps the forced load unless it sets
one. -/
theorem Step.outline_cases (s : Step) :
    (s.operation.IsLoad ∧ ∃ guest, Outline s.before guest s.calls s.after) ∨
    (¬ s.operation.IsLoad ∧ (∀ x ∈ s.calls, ¬ x.1.IsControl ∧ ∀ guest, x.1 ≠ .titleOf guest) ∧
      (¬ s.SetsForced → s.after.context.forced = s.before.context.forced)) := by
  obtain ⟨operation, before, calls, events, outcome, after, performed⟩ := s
  cases performed_of_runs performed with
  | tryLoad h => exact .inl ⟨trivial, _, (attempt_of_runs h).outline⟩
  | load h => exact .inl ⟨trivial, _, (attempt_of_runs h).outline⟩
  | setForced forced =>
    exact .inr ⟨id, List.forall_mem_nil _, fun hKeeps => absurd ⟨forced, rfl⟩ hKeeps⟩
  | unhooked guest h => exact .inr ⟨id, List.forall_mem_nil _, fun _ => rfl⟩
  | unrestored hSaved h =>
    refine .inr ⟨id, ?_, fun _ => rfl⟩
    cases h
    simp [EntryHook.mapPage, HostCall.IsControl]
  | restored hSaved h =>
    refine .inr ⟨id, ?_, fun _ => rfl⟩
    cases h
    simp [EntryHook.mapPage, EntryHook.writeCalls, EntryHook.unmapPage, HostCall.IsControl]
  | guestExit =>
    refine .inr ⟨id, ?_, fun _ => rfl⟩
    exact Reservation.forall_mem_releaseCalls _ fun _ => ⟨id, by rintro _ ⟨⟩⟩

variable {s : Step} {forced : ForcedLoad} {title : TitleId}

theorem Step.Identifies.of_uses (h : s.Uses forced) : ∃ title, s.Identifies title := by
  obtain ⟨guest, title, answer, rest, hCalls, _⟩ := h
  exact ⟨title, guest, _, hCalls⟩

/-- A step that uses no forced load, and would not if there was one. -/
theorem Step.respects_of_unused (hUnused : ∀ other, ¬ s.Uses other)
    (hNever : ¬ (s.before.context.forced = some forced ∧
      ∃ title, s.Identifies title ∧ (forced.title? = none ∨ forced.title? = some title)))
    (hWords : s.Prepares (Vector.replicate 32 0))
    (hKept : s.after.context.forced = s.before.context.forced) : s.Respects forced where
  used := ⟨fun hUses => absurd hUses (hUnused forced), fun hWould => absurd hWould hNever⟩
  isLoad hUses := absurd hUses (hUnused forced)
  words hUses := absurd hUses (hUnused forced)
  zeros _ := hWords
  taken hUses := absurd hUses (hUnused forced)
  kept _ := hKept

theorem Step.respects_of_unidentified (hTitle : ∀ title, ¬ s.Identifies title)
    (hWords : s.Prepares (Vector.replicate 32 0))
    (hKept : s.after.context.forced = s.before.context.forced) : s.Respects forced := by
  refine Step.respects_of_unused ?_ ?_ hWords hKept
  · intro other hUses
    obtain ⟨title, hIdentifies⟩ := Step.Identifies.of_uses hUses
    exact hTitle title hIdentifies
  · rintro ⟨_, title, hIdentifies, _⟩
    exact hTitle title hIdentifies

theorem Step.respects_of_unforced {guest : Guest} {searched rest : List Exchange}
    {events : List Event} {result : Option (Except LookupError OpenedPlugin)}
    (hCalls : s.calls = ⟨.titleOf guest, .ok title⟩ :: (searched ++ rest))
    (hSearch : Runs (s.before.lookup title) searched events result)
    (hFor : s.before.forcedFor title = none) (hWords : s.Prepares (s.before.wordsFor title))
    (hForced : s.after.context.forced = (Context.takeForced title s.before.context.forced).2) :
    s.Respects forced := by
  obtain ⟨answer, later, rfl⟩ := lookup_of_unforced hFor hSearch
  refine Step.respects_of_unused ?_ ?_ ?_ ?_
  · -- The search began with a directory, and so with no file.
    rintro other ⟨_, _, _, _, hSplit, _⟩
    cases hCalls.symm.trans hSplit
  · rintro ⟨hSome, other, ⟨_, _, hSplit⟩, hApplies⟩
    cases hCalls.symm.trans hSplit
    rw [forcedFor_eq_filter, hSome] at hFor
    simp [Option.filter, appliesTo_iff.mpr hApplies] at hFor
  · rw [wordsFor, hFor] at hWords
    exact hWords
  · rw [hForced, takeForced_of_none hFor]

theorem Step.respects_of_forced {guest : Guest} {searched rest : List Exchange}
    {events : List Event} {result : Option (Except LookupError OpenedPlugin)}
    (hLoad : s.operation.IsLoad)
    (hCalls : s.calls = ⟨.titleOf guest, .ok title⟩ :: (searched ++ rest))
    (hSearch : Runs (s.before.lookup title) searched events result)
    (hRest : ∀ x ∈ rest, ¬ x.1.IsStorage) (hSome : s.before.context.forced = some forced)
    (hApplies : forced.appliesTo title) (hWords : s.Prepares (s.before.wordsFor title))
    (hForced : s.after.context.forced = (Context.takeForced title s.before.context.forced).2) :
    s.Respects forced := by
  have hFor : s.before.forcedFor title = some forced := by
    rw [forcedFor_eq_filter, hSome]
    simp [Option.filter, hApplies]
  obtain ⟨answer, rfl⟩ := lookup_of_forced hFor hSearch
  have hUses : s.Uses forced := ⟨guest, title, answer, rest, hCalls, hRest⟩
  constructor
  case used =>
    exact ⟨fun _ => ⟨hSome, title, ⟨guest, _, hCalls⟩, appliesTo_iff.mp hApplies⟩, fun _ => hUses⟩
  case isLoad => exact fun _ => hLoad
  case words =>
    rw [wordsFor, hFor] at hWords
    exact fun _ => hWords
  case zeros => exact fun hUnused => absurd hUses hUnused
  case taken =>
    intro _
    rw [hForced, hSome]
    simp [Context.takeForced, hApplies]
  case kept => exact fun hUnused => absurd hUses hUnused

/-- Where one forced load is stored or none, every step but one that sets another deals with it so. -/
theorem Step.respects (hStored : s.before.context.forced = none ∨ s.before.context.forced = some forced)
    (hKeeps : ¬ s.SetsForced) : s.Respects forced := by
  rcases s.outline_cases with ⟨hLoad, guest, hOutline⟩ | ⟨hOther, hCalls, hForced⟩
  · cases hOutline with
    | unidentified hCalls hHands hHeld hForced =>
      refine Step.respects_of_unidentified ?_ ⟨hHands _, fun _ => ?_⟩ hForced
      · rintro title ⟨_, _, hSplit⟩
        cases hCalls.symm.trans hSplit
      · rw [hHeld]
        nofun
    | @identified title _ _ _ _ hCalls hSearch hRest hHands hHeld hForced =>
      have hWords : s.Prepares (s.before.wordsFor title) := ⟨hHands, fun _ => hHeld⟩
      cases hFor : s.before.forcedFor title with
      | none => exact Step.respects_of_unforced hCalls hSearch hFor hWords hForced
      | some used =>
        rw [forcedFor_eq_filter] at hFor
        obtain ⟨hSome, hApplies⟩ := Option.filter_eq_some_iff.mp hFor
        rcases hStored with hNone | hStored
        · cases hNone.symm.trans hSome
        · obtain rfl := Option.some.inj (hStored.symm.trans hSome)
          exact Step.respects_of_forced hLoad hCalls hSearch hRest hStored hApplies hWords hForced
  · refine Step.respects_of_unidentified ?_ ⟨?_, fun hLoad => absurd hLoad hOther⟩ (hForced hKeeps)
    · rintro title ⟨guest, rest, hSplit⟩
      have hMember : (⟨.titleOf guest, .ok title⟩ : Exchange) ∈ s.calls := by simp [hSplit]
      exact (hCalls _ hMember).2 guest rfl
    · exact hands_of_not_isControl (fun x hx => (hCalls x hx).1) _

/-! ## The life of a forced load -/

/-- A forced load that was set before these steps and is not used up in them. -/
def Stored (forced : ForcedLoad) (steps : List Step) : Prop :=
  forced.persistent = true ∨ ∀ s ∈ steps, ¬ s.Uses forced

/-- What is stored after these steps is the forced load, until it is used up. -/
def Remains (forced : ForcedLoad) (steps : List Step) (stored : Option ForcedLoad) : Prop :=
  (Stored forced steps → stored = some forced) ∧ (¬ Stored forced steps → stored = none)

theorem Remains.eq_or {steps : List Step} {stored : Option ForcedLoad}
    (h : Remains forced steps stored) : stored = none ∨ stored = some forced := by
  by_cases hStored : Stored forced steps
  · exact .inr (h.1 hStored)
  · exact .inl (h.2 hStored)

variable {steps : List Step}

/-- Unless another is set, nothing comes to be stored, and what was stored remains until it is used up. -/
theorem Path.remains (h : Path l steps l') (hKeeps : ∀ s ∈ steps, ¬ s.SetsForced) :
    (l.context.forced = none → l'.context.forced = none) ∧
      (l.context.forced = some forced → Remains forced steps l'.context.forced) := by
  induction h with
  | done =>
    refine ⟨id, fun hSet => ⟨fun _ => hSet, fun hNever => absurd (.inr ?_) hNever⟩⟩
    exact List.forall_mem_nil _
  | @next steps _ step _ ih =>
    obtain ⟨hStep, hRest⟩ := List.forall_mem_cons.mp hKeeps
    obtain ⟨hNone, hSome⟩ := ih hRest
    constructor
    · intro hBefore
      have hRespects : step.Respects forced := Step.respects (.inl hBefore) hStep
      have hUnused : ¬ step.Uses forced := by
        intro hUses
        cases hBefore.symm.trans (hRespects.used.mp hUses).1
      exact hNone ((hRespects.kept hUnused).trans hBefore)
    · intro hBefore
      have hRespects := Step.respects (.inr hBefore) hStep
      by_cases hUses : step.Uses forced
      · -- It is put back at once if it is persistent, and gone for good otherwise.
        have hTaken := hRespects.taken hUses
        by_cases hPersistent : forced.persistent = true
        · rw [if_pos hPersistent] at hTaken
          exact ⟨fun _ => (hSome hTaken).1 (.inl hPersistent),
            fun hNever => absurd (.inl hPersistent) hNever⟩
        · rw [if_neg hPersistent] at hTaken
          refine ⟨?_, fun _ => hNone hTaken⟩
          rintro (hPersists | hUnused)
          · exact absurd hPersists hPersistent
          · exact absurd hUses (hUnused step List.mem_cons_self)
      · have hSame : Stored forced (step :: steps) ↔ Stored forced steps := by simp [Stored, hUses]
        rw [Remains, hSame]
        exact hSome ((hRespects.kept hUses).trans hBefore)

/-- From the moment a forced load is set until another is, a load uses it if it is still stored, the title
is known, and the forced load is meant for that title. A load that uses it opens its file and asks for
nothing else of the storage, and hands its words over; every other load hands zeros over. What is not
persistent is gone after the first load that used it, however that ended, and nothing else changes what is
stored. -/
theorem forced_load_respected {first : Step} (hSets : first.operation = .setForced (some forced))
    (h : Path first.after steps l) (hKeeps : ∀ s ∈ steps, ¬ s.SetsForced) :
    Remains forced steps l.context.forced ∧
    ∀ earlier s later, steps = earlier ++ s :: later →
      Remains forced earlier s.before.context.forced ∧ s.Respects forced := by
  have hStart : first.after.context.forced = some forced := by
    rw [(Step.setForced_eq hSets).2]
    rfl
  constructor
  · exact (h.remains hKeeps).2 hStart
  · rintro earlier s later rfl
    obtain ⟨hEarlier, hStep⟩ := List.forall_mem_append.mp hKeeps
    have hRemains := (h.split.1.remains hEarlier).2 hStart
    exact ⟨hRemains, Step.respects hRemains.eq_or (List.forall_mem_cons.mp hStep).1⟩

theorem exists_identifying_step (l : Loader) (guest : Guest) (homebrew : Bool) :
    ∃ s : Step, s.before = l ∧ s.operation = .tryLoad guest homebrew ∧ s.Identifies ⟨0⟩ := by
  let host : Oracle := fun _ => onePluginHost (.ok ())
  have hRuns := runs_performance host [] ((tryLoad guest homebrew).run l)
  have hAnswered := answeredBy_performance host [] ((tryLoad guest homebrew).run l)
  obtain ⟨answer, l', hResult, hAttempt⟩ := runs_tryLoad hRuns
  rw [hResult] at hRuns
  refine ⟨⟨_, l, _, _, _, l', runs_perform_tryLoad hRuns⟩, rfl, rfl, guest, ?_⟩
  cases hAttempt.outline with
  | unidentified hCalls =>
    rw [hCalls] at hAnswered
    cases hAnswered.1
  | identified hCalls =>
    rw [hCalls] at hAnswered
    cases hAnswered.1
    exact ⟨_, hCalls⟩

theorem forced_load_used_by_first_load :
    ∃ (forced : ForcedLoad) (first load : Step), first.operation = .setForced (some forced) ∧
      Path first.after [load] load.after ∧ ¬ load.SetsForced ∧ load.Uses forced ∧
      load.Prepares forced.words ∧ load.after.context.forced = none := by
  let forced : ForcedLoad := ⟨none, ⟨"forced"⟩, false, .swap, Vector.replicate 32 7⟩
  obtain ⟨first, hSets, _⟩ := exists_step (.setForced (some forced)) (.new tightConfig)
  obtain ⟨load, hBefore, hLoad, hTitle⟩ := exists_identifying_step first.after ⟨1⟩ false
  have hPath : Path first.after [load] load.after := hBefore ▸ .next load (.done _)
  have hKeeps : ¬ load.SetsForced := by
    rintro ⟨other, hOther⟩
    cases hLoad.symm.trans hOther
  have hNever : ∀ s ∈ [load], ¬ s.SetsForced := List.forall_mem_singleton.mpr hKeeps
  obtain ⟨_, hEvery⟩ := forced_load_respected hSets hPath hNever
  obtain ⟨hRemains, hRespects⟩ := hEvery [] load [] rfl
  have hStored : load.before.context.forced = some forced :=
    hRemains.1 (.inr (List.forall_mem_nil _))
  have hUses : load.Uses forced := hRespects.used.mpr ⟨hStored, ⟨0⟩, hTitle, .inl rfl⟩
  exact ⟨forced, first, load, hSets, hPath, hKeeps, hUses, hRespects.words hUses, hRespects.taken hUses⟩

end Loader
end GuestPlugin
