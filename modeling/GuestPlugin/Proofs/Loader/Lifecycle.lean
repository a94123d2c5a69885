import GuestPlugin.Proofs.Host.BlockLedger
import GuestPlugin.Proofs.Loader.History

/-! # The life of a loader

Between operations a loader holds a region exactly when a plugin is attached, and the pool is owed that
one block. Inside a load this is not so: the context is fresh while the old block is still held, and the
new one is held long before anything is attached. Every way a load can end restores it.
-/

set_option autoImplicit false

namespace GuestPlugin

open Program BlockLedger

namespace Loader

def heldHandle (l : Loader) : Option UInt32 := l.held.map (·.handle)

/-- What holds of a loader between operations. -/
structure Settled (config : Config) (l : Loader) : Prop where
  sameConfig : l.config = config
  state : l.context.state = .idle ∨ l.context.state = .attached ∨ l.context.state = .failed
  held : l.held.isSome ↔ l.context.state = .attached
  hooked : ∀ saved, l.context.savedEntry = some saved →
    l.context.state = .attached ∧ saved.address = config.entryAddress
  clear : l.context.state = .attached → l.context.lastError = none

end Loader

/-! ## The blocks of one operation -/

theorem Reservation.orderly_release (held : Option Region) :
    Orderly (held.map (·.handle)) (releaseCalls held) none := by
  cases held with
  | none => exact .done none
  | some region => exact .give (.done none)

theorem Attach.Course.neutral {config : Config} {guest : Guest} {block : Block}
    {calls : List Exchange} {outcome : Except ResourceError SavedEntry}
    (h : Attach.Course config guest block calls outcome) : ∀ x ∈ calls, Neutral x := by
  cases h <;> simp [controlCalls, EntryHook.mapPage, EntryHook.readCalls, EntryHook.writeCalls,
    EntryHook.unmapPage, Neutral]

theorem EntryHook.Restored.neutral {guest : Guest} {saved : SavedEntry} {calls : List Exchange}
    {outcome : Except ResultCode Unit} (h : EntryHook.Restored guest saved calls outcome) :
    ∀ x ∈ calls, Neutral x := by
  cases h <;> simp [mapPage, writeCalls, unmapPage, Neutral]

namespace Loader

variable {l l' : Loader} {guest : Guest} {homebrew : Bool} {calls : List Exchange}
  {events : List Event}

theorem Opened.neutral_calls (o : Opened l) : ∀ x ∈ o.calls guest, Neutral x :=
  o.forall_mem_calls trivial neutral_of_isStorage

theorem Admitted.orderly_release (a : Admitted l homebrew) :
    Orderly l.heldHandle (a.toOpened.calls guest ++ Reservation.releaseCalls l.held) none :=
  (Orderly.of_neutral a.toOpened.neutral_calls _).append (Reservation.orderly_release l.held)

theorem Granted.orderly (g : Granted l homebrew) :
    Orderly l.heldHandle (g.calls guest) (some g.block.handle) :=
  g.toAdmitted.orderly_release.append (.take (.done _))

theorem Course.orderly {outcome : Except LoadError Unit}
    (h : Course l guest homebrew calls events outcome l') :
    Orderly l.heldHandle calls l'.heldHandle := by
  cases h with
  | unidentified code => exact .pass trivial (.done _)
  | unopened hLookup =>
    exact .of_neutral (forall_mem_search hLookup trivial neutral_of_isStorage) _
  | unreadable o hParse => exact .of_neutral o.neutral_calls _
  | refused o hParse hAdmission => exact .of_neutral o.neutral_calls _
  | unreserved a code => exact a.orderly_release.append (.pass trivial (.done none))
  | unstaged g hStage => exact g.orderly
  | unattached r hAttach => exact r.orderly.append (.of_neutral hAttach.neutral _)
  | attached r hAttach => exact r.orderly.append (.of_neutral hAttach.neutral _)

theorem Attempt.orderly {answer : Except LoadError Unit}
    (h : Attempt l guest homebrew calls events answer l') :
    Orderly l.heldHandle calls l'.heldHandle := by
  cases h with
  | succeeded hCourse => exact hCourse.orderly
  | failed hCourse => exact hCourse.orderly.append (Reservation.orderly_release _)

/-- What an operation does to the pool accounts for what the loader holds before and after. -/
theorem Performed.orderly {operation : Operation} {outcome : Outcome}
    (h : Performed l operation calls events outcome l') :
    Orderly l.heldHandle calls l'.heldHandle := by
  cases h with
  | tryLoad h => exact (attempt_of_runs h).orderly
  | load h => exact (attempt_of_runs h).orderly
  | setForced forced => exact .done _
  | unhooked guest h => exact .done _
  | unrestored hSaved h => exact .of_neutral h.neutral _
  | restored hSaved h => exact .of_neutral h.neutral _
  | guestExit => exact Reservation.orderly_release l.held

/-! ## The state between operations -/

theorem Course.config_eq {outcome : Except LoadError Unit}
    (h : Course l guest homebrew calls events outcome l') : l'.config = l.config := by
  cases h <;> rfl

theorem Course.lastError_eq {outcome : Except LoadError Unit}
    (h : Course l guest homebrew calls events outcome l') :
    l'.context.lastError = l.context.lastError := by
  cases h <;> rfl

theorem Course.savedEntry_eq {cause : LoadError}
    (h : Course l guest homebrew calls events (.error cause) l') :
    l'.context.savedEntry = l.context.savedEntry := by
  cases h <;> rfl

theorem Course.hooked (h : Course l guest homebrew calls events (.ok ()) l') :
    l'.held.isSome ∧ ∃ words, l'.context.savedEntry = some ⟨l.config.entryAddress, words⟩ := by
  cases h with
  | attached r hAttach =>
    cases hAttach with
    | hooked words => exact ⟨rfl, words, rfl⟩

theorem Attempt.settled {config : Config} {answer : Except LoadError Unit}
    (hConfig : l.config = config) (h : Attempt l guest homebrew calls events answer l') :
    Settled config l' := by
  cases h with
  | @succeeded _ _ l' hCourse =>
    obtain ⟨hHeld, words, hSaved⟩ := hCourse.hooked
    refine ⟨hCourse.config_eq.trans hConfig, .inr (.inl rfl), ?_, ?_, ?_⟩
    · exact ⟨fun _ => rfl, fun _ => hHeld⟩
    · intro saved hSome
      have hSame : some saved = some _ := hSome.symm.trans hSaved
      cases hSame
      exact ⟨rfl, congrArg Config.entryAddress hConfig⟩
    · intro _
      exact hCourse.lastError_eq
  | @failed _ _ cause l' hCourse =>
    refine ⟨hCourse.config_eq.trans hConfig, .inr (.inr rfl), ?_, ?_, ?_⟩
    · exact ⟨nofun, nofun⟩
    · intro saved hSome
      have hNone : l'.context.savedEntry = none := hCourse.savedEntry_eq
      cases hNone.symm.trans hSome
    · nofun

theorem Performed.settled {config : Config} {operation : Operation} {outcome : Outcome}
    (hBefore : Settled config l) (h : Performed l operation calls events outcome l') :
    Settled config l' := by
  cases h with
  | tryLoad h => exact (attempt_of_runs h).settled hBefore.sameConfig
  | load h => exact (attempt_of_runs h).settled hBefore.sameConfig
  | setForced forced =>
    exact ⟨hBefore.sameConfig, hBefore.state, hBefore.held, hBefore.hooked, hBefore.clear⟩
  | unhooked guest h => exact hBefore
  | unrestored hSaved h => exact hBefore
  | restored hSaved h =>
    exact ⟨hBefore.sameConfig, hBefore.state, hBefore.held, nofun, hBefore.clear⟩
  | guestExit => exact ⟨hBefore.sameConfig, .inl rfl, ⟨nofun, nofun⟩, nofun, nofun⟩

theorem settled_new (config : Config) : Settled config (.new config) :=
  ⟨rfl, .inl rfl, ⟨nofun, nofun⟩, nofun, nofun⟩

/-! ## Histories -/

def Operation.IsLoad : Operation → Prop
  | .tryLoad _ _ => True
  | .load _ _ => True
  | _ => False

/-- A step in which an attempt to load came to this answer. -/
def Step.LoadAnswers (s : Step) (answer : Except LoadError Unit) : Prop :=
  ∃ guest homebrew,
    (s.operation = .tryLoad guest homebrew ∨ s.operation = .load guest homebrew) ∧
    Runs ((tryLoad guest homebrew).run s.before) s.calls s.events (some (answer, s.after))

theorem Attempt.lastError_of_failed {answer : Except LoadError Unit}
    (h : Attempt l guest homebrew calls events answer l')
    (hFailed : l'.context.state = .failed) :
    ∃ cause, answer = .error cause ∧ l'.context.lastError = some cause := by
  cases h with
  | succeeded hCourse => cases hFailed
  | failed hCourse => exact ⟨_, rfl, rfl⟩

/-- A step that leaves a failed loader is a load that failed, or did not change that. -/
theorem Step.failed_cases (s : Step) (hFailed : s.after.context.state = .failed) :
    (∃ cause, s.LoadAnswers (.error cause) ∧ s.after.context.lastError = some cause) ∨
      (¬ s.operation.IsLoad ∧ s.before.context.state = .failed ∧
        s.after.context.lastError = s.before.context.lastError) := by
  obtain ⟨operation, before, calls, events, outcome, after, performed⟩ := s
  cases performed_of_runs performed with
  | tryLoad h =>
    obtain ⟨cause, rfl, hLast⟩ := (attempt_of_runs h).lastError_of_failed hFailed
    exact .inl ⟨cause, ⟨_, _, .inl rfl, h⟩, hLast⟩
  | load h =>
    obtain ⟨cause, rfl, hLast⟩ := (attempt_of_runs h).lastError_of_failed hFailed
    exact .inl ⟨cause, ⟨_, _, .inr rfl, h⟩, hLast⟩
  | setForced forced => exact .inr ⟨id, hFailed, rfl⟩
  | unhooked guest h => exact .inr ⟨id, hFailed, rfl⟩
  | unrestored hSaved h => exact .inr ⟨id, hFailed, rfl⟩
  | restored hSaved h => exact .inr ⟨id, hFailed, rfl⟩
  | guestExit => cases hFailed

def LastLoadAnswers (steps : List Step) (answer : Except LoadError Unit) : Prop :=
  ∃ earlier step later, steps = earlier ++ step :: later ∧ step.LoadAnswers answer ∧
    ∀ s ∈ later, ¬ s.operation.IsLoad

theorem LastLoadAnswers.snoc {steps : List Step} {answer : Except LoadError Unit} {step : Step}
    (h : LastLoadAnswers steps answer) (hStep : ¬ step.operation.IsLoad) :
    LastLoadAnswers (steps ++ [step]) answer := by
  obtain ⟨earlier, loading, later, rfl, hAnswer, hLater⟩ := h
  refine ⟨earlier, loading, later ++ [step], by simp, hAnswer, ?_⟩
  exact List.forall_mem_append.mpr ⟨hLater, List.forall_mem_singleton.mpr hStep⟩

namespace History

variable {config : Config} {steps : List Step}

theorem settled (h : History config steps l) : Settled config l :=
  h.invariant (settled_new config) fun step hBefore => step.isPerformed.settled hBefore

theorem orderly (h : History config steps l) : Orderly none (callsOf steps) l.heldHandle := by
  induction h with
  | new => exact .done none
  | next step _ ih =>
    rw [callsOf_snoc]
    exact ih.append step.isPerformed.orderly

theorem lastError_of_failed (h : History config steps l) (hFailed : l.context.state = .failed) :
    ∃ cause, l.context.lastError = some cause ∧ LastLoadAnswers steps (.error cause) := by
  induction h with
  | new => cases hFailed
  | @next steps step _ ih =>
    rcases step.failed_cases hFailed with ⟨cause, hAnswer, hLast⟩ | ⟨hOther, hBefore, hSame⟩
    · exact ⟨cause, hLast, steps, step, [], rfl, hAnswer, List.forall_mem_nil _⟩
    · obtain ⟨cause, hLast, hLoad⟩ := ih hBefore
      exact ⟨cause, hSame.trans hLast, hLoad.snoc hOther⟩

end History

/-- After every history of operations: a region is held exactly when a plugin is attached, the blocks
out of the pool are that of the region held, an entry is only saved while a plugin is attached, and the
error remembered fits the state. At no moment of the history are two blocks out, a block is only given
back while it is out, and no operation fails to return. -/
theorem lifecycle {config : Config} {steps : List Step} (h : History config steps l) :
    (l.context.state = .idle ∨ l.context.state = .attached ∨ l.context.state = .failed) ∧
    (l.held.isSome ↔ l.context.state = .attached) ∧
    live (callsOf steps) = (l.held.map (·.handle)).toList ∧
    (∀ saved, l.context.savedEntry = some saved →
      l.context.state = .attached ∧ saved.address = config.entryAddress) ∧
    (l.context.state = .attached → l.context.lastError = none) ∧
    (l.context.state = .failed →
      ∃ cause, l.context.lastError = some cause ∧ LastLoadAnswers steps (.error cause)) ∧
    (∀ before block later, callsOf steps = before ++ ⟨.free block, ()⟩ :: later →
      live before = [block.handle]) ∧
    (∀ before later, callsOf steps = before ++ later → (live before).length ≤ 1) ∧
    (∀ operation calls events result,
      Runs ((perform operation).run l) calls events result → result.isSome) := by
  have hSettled := h.settled
  have hOrderly := h.orderly
  refine ⟨hSettled.state, hSettled.held, hOrderly.live_eq, hSettled.hooked, hSettled.clear,
    h.lastError_of_failed, ?_, ?_, ?_⟩
  · intro before block later hCalls
    rw [hCalls] at hOrderly
    exact hOrderly.live_of_free
  · intro before later hCalls
    rw [hCalls] at hOrderly
    exact hOrderly.length_live_le
  · intro operation calls events result hRuns
    obtain ⟨outcome, after, rfl, _⟩ := runs_perform hRuns
    rfl

theorem lifecycle_of_one_load :
    ∃ steps l, History tightConfig steps l ∧ l.context.state = .attached ∧ l.held.isSome ∧
      live (callsOf steps) = (l.held.map (·.handle)).toList := by
  obtain ⟨calls, events, l', hRuns⟩ := exists_runs_tryLoad_ok
  have hPerform : Runs ((perform (.tryLoad ⟨1⟩ false)).run (.new tightConfig)) calls events
      (some (.loaded (.ok ()), l')) := by
    have hEnd := hRuns.bind (f := fun r => Program.done (Outcome.loaded r.1, r.2)) (.done _)
    rwa [List.append_nil, List.append_nil] at hEnd
  let step : Step := ⟨.tryLoad ⟨1⟩ false, .new tightConfig, calls, events, _, l', hPerform⟩
  have hHistory : History tightConfig [step] l' := @History.next _ [] step .new
  have hState : l'.context.state = .attached := by
    cases attempt_of_runs hRuns
    rfl
  obtain ⟨_, hHeld, hLive, _⟩ := lifecycle hHistory
  exact ⟨[step], l', hHistory, hState, hHeld.mpr hState, hLive⟩

end Loader
end GuestPlugin
