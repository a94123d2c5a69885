import GuestPlugin.Loader.Operation
import GuestPlugin.Proofs.Host.FixedAnswers
import GuestPlugin.Proofs.Loader.Course

/-! # What an operation does to a loader

Around a load stand the forgetting at its beginning and, when it fails, the giving back at its end. The
other operations make few calls or none. Together these are all the steps a loader can take.
-/

set_option autoImplicit false

namespace GuestPlugin.Loader

open Program

variable (l : Loader) (guest : Guest) (homebrew : Bool)

/-- The loader with everything forgotten that a load forgets. -/
def refreshed : Loader :=
  { l with context := .fresh l.config.strategy l.context.forced }

def failing (cause : LoadError) : Loader :=
  { l with
    held := none
    context := { l.context with state := .failed, lastError := some cause } }

inductive Attempt : List Exchange → List Event → Except LoadError Unit → Loader → Prop where
  | succeeded {calls : List Exchange} {events : List Event} {l' : Loader}
      (h : Course l.refreshed guest homebrew calls events (.ok ()) l') :
      Attempt calls (events ++ [.stateChanged l'.context.state .attached]) (.ok ())
        (l'.inState .attached)
  | failed {calls : List Exchange} {events : List Event} {cause : LoadError} {l' : Loader}
      (h : Course l.refreshed guest homebrew calls events (.error cause) l') :
      Attempt (calls ++ Reservation.releaseCalls l'.held)
        (events ++ [.stateChanged l'.context.state .failed, failureEvent cause l'.held.isSome])
        (.error cause) (l'.failing cause)

/-- The end of an attempt to load, after its stages. -/
def conclude (r : Except LoadError Unit × Loader) : Program (Except LoadError Unit × Loader) :=
  match r.1 with
  | .ok () => .emit (.stateChanged r.2.context.state .attached) (.done (.ok (), r.2.inState .attached))
  | .error cause => (Reservation.release r.2.held).bind fun released =>
    .emit (.stateChanged r.2.context.state .failed)
      (.emit (failureEvent cause released) (.done (.error cause, r.2.failing cause)))

theorem run_tryLoad :
    (tryLoad guest homebrew).run l = ((load guest homebrew).run.run l.refreshed).bind conclude := by
  change Program.bind ((load guest homebrew).run.run l.refreshed) _ = _
  refine congrArg (Program.bind _) (funext fun r => ?_)
  rcases r with ⟨cause | _, config, held, context⟩
  · cases held <;> rfl
  · rfl

variable {l guest homebrew} {calls : List Exchange} {events : List Event}

theorem runs_tryLoad {result : Option (Except LoadError Unit × Loader)}
    (h : Runs ((tryLoad guest homebrew).run l) calls events result) :
    ∃ outcome after, result = some (outcome, after) ∧
      Attempt l guest homebrew calls events outcome after := by
  rw [run_tryLoad] at h
  rcases runs_bind_iff.mp h with ⟨r, _, _, _, _, hLoad, hRest, rfl, rfl⟩ | ⟨rfl, hNone⟩
  · obtain ⟨outcome, l', hOutcome, hCourse⟩ := runs_load hLoad
    obtain rfl := Option.some.inj hOutcome
    rcases outcome with cause | _
    · obtain ⟨_, _, _, _, _, hRelease, hEnd, rfl, rfl⟩ :=
        (Reservation.release_total l'.held).runs_bind_iff.mp hRest
      obtain ⟨rfl, rfl, hReleased⟩ := Reservation.runs_release hRelease
      obtain rfl := Option.some.inj hReleased
      obtain ⟨_, rfl, hReport⟩ := runs_emit_iff.mp hEnd
      obtain ⟨_, rfl, hDone⟩ := runs_emit_iff.mp hReport
      obtain ⟨rfl, rfl, rfl⟩ := runs_done_iff.mp hDone
      rw [List.append_nil]
      exact ⟨_, _, rfl, .failed hCourse⟩
    · obtain ⟨_, rfl, hEnd⟩ := runs_emit_iff.mp hRest
      obtain ⟨rfl, rfl, rfl⟩ := runs_done_iff.mp hEnd
      rw [List.append_nil]
      exact ⟨_, _, rfl, .succeeded hCourse⟩
  · obtain ⟨_, _, hOutcome, _⟩ := runs_load hNone
    cases hOutcome

theorem attempt_of_runs {answer : Except LoadError Unit} {l' : Loader}
    (h : Runs ((tryLoad guest homebrew).run l) calls events (some (answer, l'))) :
    Attempt l guest homebrew calls events answer l' := by
  obtain ⟨_, _, hResult, hAttempt⟩ := runs_tryLoad h
  cases hResult
  exact hAttempt

theorem tryLoad_total (l : Loader) (guest : Guest) (homebrew : Bool) :
    Total ((tryLoad guest homebrew).run l) := by
  intro calls events result h
  obtain ⟨_, _, rfl, _⟩ := runs_tryLoad h
  rfl

variable (l)

def unhooked : Loader := { l with context := { l.context with savedEntry := none } }

inductive Performed : Operation → List Exchange → List Event → Outcome → Loader → Prop where
  | tryLoad {guest : Guest} {homebrew : Bool} {calls : List Exchange} {events : List Event}
      {answer : Except LoadError Unit} {l' : Loader}
      (h : Runs ((Loader.tryLoad guest homebrew).run l) calls events (some (answer, l'))) :
      Performed (.tryLoad guest homebrew) calls events (.loaded answer) l'
  | load {guest : Guest} {homebrew : Bool} {calls : List Exchange} {events : List Event}
      {answer : Except LoadError Unit} {l' : Loader}
      (h : Runs ((Loader.tryLoad guest homebrew).run l) calls events (some (answer, l'))) :
      Performed (.load guest homebrew) calls events (.attached answer.toBool) l'
  | setForced (forced : Option ForcedLoad) :
      Performed (.setForced forced) [] [] .finished
        { l with context := { l.context with forced } }
  | unhooked (guest : Guest) (h : l.context.savedEntry = none) :
      Performed (.restoreEntry guest) [] [] (.restored (.ok ())) l
  | unrestored {guest : Guest} {saved : SavedEntry} {calls : List Exchange} {code : ResultCode}
      (hSaved : l.context.savedEntry = some saved)
      (h : EntryHook.Restored guest saved calls (.error code)) :
      Performed (.restoreEntry guest) calls [] (.restored (.error (.entryMappingFailed code))) l
  | restored {guest : Guest} {saved : SavedEntry} {calls : List Exchange}
      (hSaved : l.context.savedEntry = some saved)
      (h : EntryHook.Restored guest saved calls (.ok ())) :
      Performed (.restoreEntry guest) calls [] (.restored (.ok ())) l.unhooked
  | guestExit :
      Performed .guestExit (Reservation.releaseCalls l.held)
        ((if l.held.isSome then [.releasedOnExit] else []) ++
          [.stateChanged l.context.state .idle])
        .finished ((l.holding none).unhooked.inState .idle)

theorem run_restoreEntry (guest : Guest) :
    (restoreEntry guest).run l =
      match l.context.savedEntry with
      | none => .done (.ok (), l)
      | some saved => (EntryHook.restore guest saved).bind fun answer =>
        match answer with
        | .error code => .done (.error (.entryMappingFailed code), l)
        | .ok () => .done (.ok (), l.unhooked) := by
  change (match l.context.savedEntry with
    | none => _
    | some saved => _ : LoaderM (Except ResourceError Unit)).run l = _
  cases l.context.savedEntry with
  | none => rfl
  | some saved =>
    change Program.bind (Program.bind _ _) _ = _
    rw [bind_assoc]
    refine congrArg (Program.bind _) (funext fun answer => ?_)
    rcases answer with code | _ <;> rfl

theorem run_guestExit :
    guestExit.run l = (Reservation.release l.held).bind fun released =>
      if released then
        .emit .releasedOnExit (.emit (.stateChanged l.context.state .idle)
          (.done ((), ((l.holding none).unhooked.inState .idle))))
      else
        .emit (.stateChanged l.context.state .idle)
          (.done ((), ((l.holding none).unhooked.inState .idle))) := by
  rcases l with ⟨config, _ | region, context⟩ <;> rfl

variable {l}

theorem runs_restoreEntry {result : Option (Except ResourceError Unit × Loader)}
    (h : Runs ((restoreEntry guest).run l) calls events result) :
    ∃ answer after, result = some (answer, after) ∧
      Performed l (.restoreEntry guest) calls events (.restored answer) after := by
  rw [run_restoreEntry] at h
  cases hSaved : l.context.savedEntry with
  | none =>
    rw [hSaved] at h
    obtain ⟨rfl, rfl, rfl⟩ := runs_done_iff.mp h
    exact ⟨_, _, rfl, .unhooked guest hSaved⟩
  | some saved =>
    rw [hSaved] at h
    obtain ⟨answer, _, _, _, _, hRestore, hEnd, rfl, rfl⟩ :=
      (EntryHook.restore_total guest saved).runs_bind_iff.mp h
    obtain ⟨rfl, _, hAnswer, hRestored⟩ := EntryHook.runs_restore hRestore
    obtain rfl := Option.some.inj hAnswer
    rcases answer with code | _
    · obtain ⟨rfl, rfl, rfl⟩ := runs_done_iff.mp hEnd
      rw [List.append_nil]
      exact ⟨_, _, rfl, .unrestored hSaved hRestored⟩
    · obtain ⟨rfl, rfl, rfl⟩ := runs_done_iff.mp hEnd
      rw [List.append_nil]
      exact ⟨_, _, rfl, .restored hSaved hRestored⟩

theorem runs_guestExit {result : Option (Unit × Loader)}
    (h : Runs (guestExit.run l) calls events result) :
    ∃ after, result = some ((), after) ∧ Performed l .guestExit calls events .finished after := by
  rw [run_guestExit] at h
  obtain ⟨_, _, _, _, _, hRelease, hEnd, rfl, rfl⟩ :=
    (Reservation.release_total l.held).runs_bind_iff.mp h
  obtain ⟨rfl, rfl, hReleased⟩ := Reservation.runs_release hRelease
  obtain rfl := Option.some.inj hReleased
  refine ⟨(l.holding none).unhooked.inState .idle, ?_⟩
  have hExit : Performed l .guestExit _ _ _ _ := .guestExit
  cases hHeld : l.held.isSome with
  | false =>
    rw [hHeld] at hEnd hExit
    obtain ⟨_, rfl, hDone⟩ := runs_emit_iff.mp hEnd
    obtain ⟨rfl, rfl, rfl⟩ := runs_done_iff.mp hDone
    rw [List.append_nil]
    exact ⟨rfl, hExit⟩
  | true =>
    rw [hHeld] at hEnd hExit
    obtain ⟨_, rfl, hState⟩ := runs_emit_iff.mp hEnd
    obtain ⟨_, rfl, hDone⟩ := runs_emit_iff.mp hState
    obtain ⟨rfl, rfl, rfl⟩ := runs_done_iff.mp hDone
    rw [List.append_nil]
    exact ⟨rfl, hExit⟩

theorem runs_tryLoad_answer {f : Except LoadError Unit → Outcome} {result : Option (Outcome × Loader)}
    (h : Runs ((tryLoad guest homebrew >>= fun answer => pure (f answer) : LoaderM Outcome).run l)
      calls events result) :
    ∃ answer after, result = some (f answer, after) ∧
      Runs ((tryLoad guest homebrew).run l) calls events (some (answer, after)) := by
  obtain ⟨⟨answer, l'⟩, _, _, _, _, hLoad, hEnd, rfl, rfl⟩ :=
    (tryLoad_total l guest homebrew).runs_bind_iff.mp h
  obtain ⟨rfl, rfl, rfl⟩ := runs_done_iff.mp hEnd
  refine ⟨answer, l', rfl, ?_⟩
  rwa [List.append_nil, List.append_nil]

/-- Every run of an operation is one of these: no operation ends in an access outside a block. -/
theorem runs_perform {operation : Operation} {result : Option (Outcome × Loader)}
    (h : Runs ((perform operation).run l) calls events result) :
    ∃ outcome after, result = some (outcome, after) ∧
      Performed l operation calls events outcome after := by
  cases operation with
  | tryLoad guest homebrew =>
    obtain ⟨answer, l', rfl, hLoad⟩ := runs_tryLoad_answer h
    exact ⟨_, _, rfl, .tryLoad hLoad⟩
  | load guest homebrew =>
    obtain ⟨answer, l', rfl, hLoad⟩ := runs_tryLoad_answer h
    exact ⟨_, _, rfl, .load hLoad⟩
  | setForced forced =>
    obtain ⟨rfl, rfl, rfl⟩ := runs_done_iff.mp h
    exact ⟨_, _, rfl, .setForced forced⟩
  | restoreEntry guest =>
    rcases runs_bind_iff.mp h with ⟨_, _, _, _, _, hRestore, hEnd, rfl, rfl⟩ | ⟨rfl, hNone⟩
    · obtain ⟨answer, l', hAnswer, hPerformed⟩ := runs_restoreEntry hRestore
      obtain rfl := Option.some.inj hAnswer
      obtain ⟨rfl, rfl, rfl⟩ := runs_done_iff.mp hEnd
      simp only [List.append_nil]
      exact ⟨_, _, rfl, hPerformed⟩
    · obtain ⟨_, _, hAnswer, _⟩ := runs_restoreEntry hNone
      cases hAnswer
  | guestExit =>
    rcases runs_bind_iff.mp h with ⟨_, _, _, _, _, hExit, hEnd, rfl, rfl⟩ | ⟨rfl, hNone⟩
    · obtain ⟨l', hAnswer, hPerformed⟩ := runs_guestExit hExit
      obtain rfl := Option.some.inj hAnswer
      obtain ⟨rfl, rfl, rfl⟩ := runs_done_iff.mp hEnd
      simp only [List.append_nil]
      exact ⟨_, _, rfl, hPerformed⟩
    · obtain ⟨_, hAnswer, _⟩ := runs_guestExit hNone
      cases hAnswer

theorem performed_of_runs {operation : Operation} {outcome : Outcome} {l' : Loader}
    (h : Runs ((perform operation).run l) calls events (some (outcome, l'))) :
    Performed l operation calls events outcome l' := by
  obtain ⟨_, _, hResult, hPerformed⟩ := runs_perform h
  cases hResult
  exact hPerformed

set_option maxRecDepth 100000 in
/-- A load succeeds where there is a plugin and no request is refused. -/
theorem exists_runs_tryLoad_ok :
    ∃ calls events l', Runs ((tryLoad ⟨1⟩ false).run (.new tightConfig)) calls events
      (some (.ok (), l')) := by
  have hValue : (((tryLoad ⟨1⟩ false).run (.new tightConfig)).valueWith
      (onePluginHost (.ok ()))).map (·.1) = some (.ok ()) := by decide +kernel
  obtain ⟨calls, events, ⟨outcome, l'⟩, hRuns, rfl⟩ := exists_runs_of_valueWith hValue
  exact ⟨calls, events, l', hRuns⟩

end GuestPlugin.Loader
