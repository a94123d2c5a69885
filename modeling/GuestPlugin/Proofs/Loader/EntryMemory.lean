import GuestPlugin.Proofs.Guest.Memory
import GuestPlugin.Proofs.Loader.Superseded

/-! # An entry that is hooked and restored

A load that succeeds exchanges the two words of the entry and saves what stood there. The only other call
that writes is the restoring one, and it writes what was saved. So a load is undone by restoring the entry
in the same guest, however often that was refused before, and after that nothing is left to restore.
-/

set_option autoImplicit false

namespace GuestPlugin.Loader

open Program Memory

variable {l l' : Loader} {guest : Guest} {homebrew : Bool} {calls : List Exchange}
  {events : List Event}

/-! ## What a load does to the words -/

theorem Opened.apart_calls (o : Opened l) : ∀ x ∈ o.calls guest, Apart x :=
  o.forall_mem_calls trivial apart_of_isStorage

theorem Admitted.apart_calls (a : Admitted l homebrew) (answer : Except ResultCode Block) :
    ∀ x ∈ a.toOpened.calls guest ++ Reservation.releaseCalls l.held ++
      [(⟨.allocate a.size, answer⟩ : Exchange)], Apart x :=
  a.forall_mem_calls trivial apart_of_isStorage (fun _ => trivial) trivial

theorem apart_releaseCalls (held : Option Region) :
    ∀ x ∈ Reservation.releaseCalls held, Apart x :=
  Reservation.forall_mem_releaseCalls held fun _ => trivial

theorem Course.apart {cause : LoadError}
    (h : Course l guest homebrew calls events (.error cause) l') : ∀ x ∈ calls, Apart x := by
  cases h with
  | unidentified code => exact List.forall_mem_singleton.mpr trivial
  | unopened hLookup => exact forall_mem_search hLookup trivial apart_of_isStorage
  | unreadable o hParse => exact o.apart_calls
  | refused o hParse hAdmission => exact o.apart_calls
  | unreserved a code => exact a.apart_calls _
  | unstaged g hStage => exact g.toAdmitted.apart_calls _
  | unattached r hAttach =>
    exact List.forall_mem_append.mpr ⟨r.toAdmitted.apart_calls _, hAttach.apart⟩

/-- A load that succeeds exchanges the words of the entry, and saves those that stood there. -/
theorem Course.exchanges (h : Course l guest homebrew calls events (.ok ()) l') :
    ∃ words, l'.context.savedEntry = some ⟨l.config.entryAddress, words⟩ ∧
      Exchanges guest l.config.entryAddress words (hookWords l.config.trampoline) calls := by
  cases h with
  | @attached r _ saved hAttach =>
    obtain ⟨hAddress, hExchanges⟩ := hAttach.exchanges
    refine ⟨saved.words, ?_, hExchanges.prepend (r.toAdmitted.apart_calls _)⟩
    rw [← hAddress]
    rfl

theorem Attempt.apart {cause : LoadError}
    (h : Attempt l guest homebrew calls events (.error cause) l') : ∀ x ∈ calls, Apart x := by
  cases h with
  | failed hCourse => exact List.forall_mem_append.mpr ⟨hCourse.apart, apart_releaseCalls _⟩

theorem Attempt.exchanges (h : Attempt l guest homebrew calls events (.ok ()) l') :
    ∃ words, l'.context.savedEntry = some ⟨l.config.entryAddress, words⟩ ∧
      Exchanges guest l.config.entryAddress words (hookWords l.config.trampoline) calls := by
  cases h with
  | succeeded hCourse => exact hCourse.exchanges

theorem Attempt.savedEntry_of_error {cause : LoadError}
    (h : Attempt l guest homebrew calls events (.error cause) l') : l'.context.savedEntry = none := by
  cases h with
  | failed hCourse => exact hCourse.savedEntry_eq

/-! ## What the other operations do to the words -/

def forcing (l : Loader) (forced : Option ForcedLoad) : Loader :=
  { l with context := { l.context with forced } }

theorem Step.setForced_eq {s : Step} {forced : Option ForcedLoad}
    (h : s.operation = .setForced forced) : s.calls = [] ∧ s.after = s.before.forcing forced := by
  obtain ⟨operation, before, calls, events, outcome, after, performed⟩ := s
  obtain rfl : operation = .setForced forced := h
  cases performed_of_runs performed
  exact ⟨rfl, rfl⟩

/-- What a step that restores an entry comes to. -/
inductive Step.Restoration (s : Step) (guest : Guest) : Prop where
  | nothing (hSaved : s.before.context.savedEntry = none) (hCalls : s.calls = [])
      (hOutcome : s.outcome = .restored (.ok ())) (hAfter : s.after = s.before)
  | refused {saved : SavedEntry} {code : ResultCode}
      (hSaved : s.before.context.savedEntry = some saved)
      (hCalls : EntryHook.Restored guest saved s.calls (.error code))
      (hOutcome : s.outcome = .restored (.error (.entryMappingFailed code)))
      (hAfter : s.after = s.before)
  | written {saved : SavedEntry} (hSaved : s.before.context.savedEntry = some saved)
      (hCalls : EntryHook.Restored guest saved s.calls (.ok ()))
      (hOutcome : s.outcome = .restored (.ok ())) (hAfter : s.after = s.before.unhooked)

theorem Step.restoration {s : Step} (h : s.operation = .restoreEntry guest) : s.Restoration guest := by
  obtain ⟨operation, before, calls, events, outcome, after, performed⟩ := s
  obtain rfl : operation = .restoreEntry guest := h
  cases performed_of_runs performed with
  | unhooked _ hSaved => exact .nothing hSaved rfl rfl rfl
  | unrestored hSaved hCalls => exact .refused hSaved hCalls rfl rfl
  | restored hSaved hCalls => exact .written hSaved hCalls rfl rfl

/-! ## Restoring after refusals -/

def Step.FailsToRestore (s : Step) (guest : Guest) : Prop :=
  s.operation = .restoreEntry guest ∧ ∃ cause, s.outcome = .restored (.error cause)

def Step.Restores (s : Step) (guest : Guest) : Prop :=
  s.operation = .restoreEntry guest ∧ s.outcome = .restored (.ok ())

def Step.SetsForced (s : Step) : Prop := ∃ forced, s.operation = .setForced forced

/-- A restoring step fails because its page is refused, and then it changes nothing. -/
theorem Step.FailsToRestore.unchanged {s : Step} (h : s.FailsToRestore guest) :
    s.after = s.before ∧ ∀ x ∈ s.calls, Apart x := by
  obtain ⟨hOperation, cause, hOutcome⟩ := h
  cases Step.restoration hOperation with
  | nothing _ _ hDone => cases hOutcome.symm.trans hDone
  | refused _ hCalls _ hAfter => exact ⟨hAfter, hCalls.apart⟩
  | written _ _ hDone => cases hOutcome.symm.trans hDone

theorem Step.Restores.written {s : Step} {saved : SavedEntry} (h : s.Restores guest)
    (hSaved : s.before.context.savedEntry = some saved) :
    s.after = s.before.unhooked ∧ Puts guest saved.address saved.words s.calls := by
  obtain ⟨hOperation, hOutcome⟩ := h
  cases Step.restoration hOperation with
  | nothing hNone => cases hSaved.symm.trans hNone
  | refused _ _ hFailed => cases hOutcome.symm.trans hFailed
  | written hSome hCalls _ hAfter =>
    cases hSaved.symm.trans hSome
    exact ⟨hAfter, hCalls.puts⟩

/-- On a path of refusals and of changes of the forced load, nothing but the forced load changes. -/
theorem Path.retries {retries : List Step} (h : Path l retries l')
    (hRetries : ∀ s ∈ retries, s.FailsToRestore guest ∨ s.SetsForced) :
    (∃ forced, l' = l.forcing forced) ∧ ∀ x ∈ callsOf retries, Apart x := by
  induction h with
  | done l => exact ⟨⟨l.context.forced, rfl⟩, List.forall_mem_nil _⟩
  | next step _ ih =>
    obtain ⟨hStep, hRest⟩ := List.forall_mem_cons.mp hRetries
    obtain ⟨⟨forced, rfl⟩, hCalls⟩ := ih hRest
    rw [callsOf_cons]
    rcases hStep with hFails | ⟨set, hSets⟩
    · obtain ⟨hAfter, hApart⟩ := hFails.unchanged
      rw [hAfter]
      exact ⟨⟨forced, rfl⟩, List.forall_mem_append.mpr ⟨hApart, hCalls⟩⟩
    · obtain ⟨hNone, hAfter⟩ := Step.setForced_eq hSets
      rw [hNone, hAfter]
      exact ⟨⟨forced, rfl⟩, hCalls⟩

/-- Where nothing is saved, nothing is asked for to restore it. -/
theorem Path.callsOf_eq_nil {later : List Step} (h : Path l later l')
    (hNone : l.context.savedEntry = none)
    (hLater : ∀ s ∈ later, (∃ other, s.operation = .restoreEntry other) ∨ s.SetsForced) :
    callsOf later = [] := by
  induction h with
  | done l => rfl
  | next step _ ih =>
    obtain ⟨hStep, hRest⟩ := List.forall_mem_cons.mp hLater
    rw [callsOf_cons]
    rcases hStep with ⟨other, hRestore⟩ | ⟨set, hSets⟩
    · cases Step.restoration hRestore with
      | nothing _ hCalls _ hAfter =>
        rw [hCalls, ih (hAfter ▸ hNone) hRest]
        rfl
      | refused hSome => cases hNone.symm.trans hSome
      | written hSome => cases hNone.symm.trans hSome
    · obtain ⟨hCalls, hAfter⟩ := Step.setForced_eq hSets
      rw [hCalls, ih (hAfter ▸ hNone) hRest]
      rfl

/-! ## A host that reads from memory -/

/-- Memory in which every word is its own address. -/
def addressWords : Guest → UInt32 → UInt32 := fun _ address => address

/-- A host that grants everything, and reads from memory. -/
def grantingHost : Oracle := oracle addressWords (onePluginHost (.ok ()))

set_option maxRecDepth 100000 in
theorem exists_runs_tryLoad_truthful :
    ∃ calls events l', Runs ((tryLoad ⟨1⟩ false).run (.new tightConfig)) calls events
      (some (.ok (), l')) ∧ (unseen addressWords).Truthful calls := by
  have hValue : (((tryLoad ⟨1⟩ false).run (.new tightConfig)).performance grantingHost
      []).result.map (·.1) = some (.ok ()) := by decide +kernel
  obtain ⟨calls, events, ⟨_, l'⟩, hRuns, rfl, hAnswered⟩ := exists_runs_answeredBy _ [] hValue
  exact ⟨calls, events, l', hRuns, truthful_of_answeredBy hAnswered⟩

/-- Restoring an entry that is hooked fails or succeeds as the request for its page does. -/
theorem exists_restoring_step (guest : Guest) (page : Except ResultCode Unit)
    (hSaved : l.context.savedEntry.isSome) :
    ∃ s : Step, s.before = l ∧ s.operation = .restoreEntry guest ∧
      s.outcome = .restored (page.mapError .entryMappingFailed) := by
  have hValue : (((perform (.restoreEntry guest)).run l).valueWith (onePluginHost page)).map (·.1) =
      some (.restored (page.mapError .entryMappingFailed)) := by
    obtain ⟨config, held, _, _, _, _, _, _, _, _, _, _, _ | saved⟩ := l
    · cases hSaved
    · cases page <;> rfl
  obtain ⟨calls, events, ⟨outcome, after⟩, hRuns, hOutcome⟩ := exists_runs_of_valueWith hValue
  exact ⟨⟨_, l, calls, events, outcome, after, hRuns⟩, rfl, rfl, hOutcome⟩

/-! ## The round trip -/

/-- An attempt to load that succeeds puts the two words of the hook into its guest, and saves those that
stood there. Restoring the entry leaves everything as it is when it fails. When it succeeds, however often
it failed before, the words of all guests are those from before the load, the region and the state are
those from after it, nothing is saved any more, and what is restored later makes no call. -/
theorem restoreEntry_undoes_tryLoad {word : Guest → UInt32 → UInt32}
    (hRuns : Runs ((tryLoad guest homebrew).run l) calls events (some (.ok (), l')))
    (hTruthful : (unseen word).Truthful calls) :
    (unseen word).after calls = unseen (Function.update word guest
      (putWords (word guest) l.config.entryAddress ⟨branchToNextWord, l.config.trampoline⟩)) ∧
    l'.context.savedEntry =
      some ⟨l.config.entryAddress, wordsAt (word guest) l.config.entryAddress⟩ ∧
    ∀ (retries : List Step) (l₁ : Loader), Path l' retries l₁ →
      (∀ s ∈ retries, s.FailsToRestore guest ∨ s.SetsForced) →
      (∀ s ∈ retries, s.FailsToRestore guest →
        s.after = s.before ∧ ∀ m : Memory, m.after s.calls = m) ∧
      ∀ restore : Step, restore.before = l₁ → restore.Restores guest →
        (unseen word).after (calls ++ callsOf retries ++ restore.calls) = unseen word ∧
        restore.after.context.savedEntry = none ∧
        restore.after.held = l'.held ∧
        l'.context.state = .attached ∧ restore.after.context.state = .attached ∧
        ∀ (later : List Step) (l₂ : Loader), Path restore.after later l₂ →
          (∀ s ∈ later, (∃ other, s.operation = .restoreEntry other) ∨ s.SetsForced) →
          callsOf later = [] := by
  have hAttempt := attempt_of_runs hRuns
  obtain ⟨words, hSaved, hExchanges⟩ := hAttempt.exchanges
  have hState : l'.context.state = .attached := by
    cases hAttempt
    rfl
  obtain rfl := (hExchanges.truthful word).mp hTruthful
  have hPut := hExchanges.puts word
  refine ⟨hPut, hSaved, ?_⟩
  intro retries l₁ hPath hRetries
  obtain ⟨⟨forced, rfl⟩, hApart⟩ := hPath.retries hRetries
  constructor
  · intro s _ hFails
    exact ⟨hFails.unchanged.1, after_of_apart hFails.unchanged.2⟩
  · intro restore hBefore hRestores
    have hSame : restore.before.context.savedEntry = l'.context.savedEntry := by
      rw [hBefore]
      rfl
    obtain ⟨hAfter, hBack⟩ := hRestores.written (hSame.trans hSaved)
    have hNone : restore.after.context.savedEntry = none := by
      rw [hAfter]
      rfl
    refine ⟨?_, hNone, ?_, hState, ?_, ?_⟩
    · rw [after_append, after_append, hPut, after_of_apart hApart, hBack]
      simp
    · rw [hAfter, hBefore]
      rfl
    · rw [hAfter, hBefore]
      exact hState
    · intro later l₂ hLater hQuiet
      exact hLater.callsOf_eq_nil hNone hQuiet

/-- A hook is undone by restoring the entry a second time, after the first attempt was refused. -/
theorem hooked_entry_restored_after_refusal :
    ∃ (calls : List Exchange) (events : List Event) (l' : Loader) (refused forcing restore again : Step),
      Runs ((tryLoad ⟨1⟩ false).run (.new tightConfig)) calls events (some (.ok (), l')) ∧
      (unseen addressWords).Truthful calls ∧ Path l' [refused, forcing] restore.before ∧
      refused.FailsToRestore ⟨1⟩ ∧ forcing.SetsForced ∧ restore.Restores ⟨1⟩ ∧
      (unseen addressWords).after calls ≠ unseen addressWords ∧
      (unseen addressWords).after (calls ++ callsOf [refused, forcing] ++ restore.calls) =
        unseen addressWords ∧
      again.before = restore.after ∧ again.operation = .restoreEntry ⟨1⟩ ∧ again.calls = [] := by
  obtain ⟨calls, events, l', hRuns, hTruthful⟩ := exists_runs_tryLoad_truthful
  obtain ⟨hHooked, hSaved, hUndone⟩ := restoreEntry_undoes_tryLoad hRuns hTruthful
  obtain ⟨refused, rfl, hRefused, hCode⟩ :=
    exists_restoring_step ⟨1⟩ (.error ⟨0⟩) (Option.isSome_of_eq_some hSaved)
  have hFails : refused.FailsToRestore ⟨1⟩ := ⟨hRefused, _, hCode⟩
  obtain ⟨forcing, hForcing, hBetween⟩ := exists_step (.setForced none) refused.after
  have hKept : forcing.after.context.savedEntry.isSome := by
    rw [(Step.setForced_eq hForcing).2, hBetween, hFails.unchanged.1]
    exact Option.isSome_of_eq_some hSaved
  obtain ⟨restore, hLast, hRestore, hDone⟩ := exists_restoring_step ⟨1⟩ (.ok ()) hKept
  have hPath : Path refused.before [refused, forcing] forcing.after :=
    .next refused (hBetween ▸ .next forcing (.done _))
  have hRetries : ∀ s ∈ [refused, forcing], s.FailsToRestore ⟨1⟩ ∨ s.SetsForced := by
    simpa using ⟨Or.inl hFails, Or.inr ⟨none, hForcing⟩⟩
  obtain ⟨_, hRestored⟩ := hUndone _ _ hPath hRetries
  obtain ⟨hMemory, _, _, _, _, hQuiet⟩ := hRestored restore hLast ⟨hRestore, hDone⟩
  obtain ⟨again, hAgain, hStart⟩ := exists_step (.restoreEntry ⟨1⟩) restore.after
  have hNothing : callsOf [again] = [] :=
    hQuiet [again] again.after (hStart ▸ .next again (.done _))
      (List.forall_mem_singleton.mpr (.inl ⟨⟨1⟩, hAgain⟩))
  refine ⟨calls, events, refused.before, refused, forcing, restore, again, hRuns, hTruthful,
    hLast ▸ hPath, hFails, ⟨none, hForcing⟩, ⟨hRestore, hDone⟩, ?_, hMemory, hStart, hAgain, ?_⟩
  · intro hSame
    have hWord := congrArg (fun m => wordsAt (m.word ⟨1⟩) tightConfig.entryAddress)
      (hHooked.symm.trans hSame)
    simp only [unseen, Function.update_self] at hWord
    rw [show (Loader.new tightConfig).config.entryAddress = tightConfig.entryAddress from rfl,
      wordsAt_putWords] at hWord
    revert hWord
    decide
  · exact (List.append_nil _).symm.trans hNothing

end GuestPlugin.Loader
