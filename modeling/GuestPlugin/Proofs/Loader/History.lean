import GuestPlugin.Proofs.Loader.Operation

/-! # Histories of a loader

A history is a list of operations performed one after the other on a loader that was new at first, with
any answers of the host at each call. An invariant is proved of it once for all operations.
-/

set_option autoImplicit false

namespace GuestPlugin.Loader

open Program

/-- An operation that was performed on a loader: what it did, and what it left. -/
structure Step where
  operation : Operation
  before : Loader
  calls : List Exchange
  events : List Event
  outcome : Outcome
  after : Loader
  performed : Runs ((perform operation).run before) calls events (some (outcome, after))

inductive History (config : Config) : List Step → Loader → Prop where
  | new : History config [] (Loader.new config)
  | next {steps : List Step} (step : Step) (h : History config steps step.before) :
      History config (steps ++ [step]) step.after

def callsOf (steps : List Step) : List Exchange := steps.flatMap (·.calls)

@[simp] theorem callsOf_snoc (steps : List Step) (step : Step) :
    callsOf (steps ++ [step]) = callsOf steps ++ step.calls := by
  simp [callsOf]

theorem Step.isPerformed (s : Step) :
    Performed s.before s.operation s.calls s.events s.outcome s.after :=
  performed_of_runs s.performed

theorem runs_perform_tryLoad {l l' : Loader} {guest : Guest} {homebrew : Bool}
    {calls : List Exchange} {events : List Event} {answer : Except LoadError Unit}
    (h : Runs ((tryLoad guest homebrew).run l) calls events (some (answer, l'))) :
    Runs ((perform (.tryLoad guest homebrew)).run l) calls events (some (.loaded answer, l')) := by
  have hEnd := h.bind (f := fun r => Program.done (Outcome.loaded r.1, r.2)) (.done _)
  rwa [List.append_nil, List.append_nil] at hEnd

/-- Every operation can be performed on every loader. -/
theorem exists_step (operation : Operation) (l : Loader) :
    ∃ s : Step, s.operation = operation ∧ s.before = l := by
  obtain ⟨calls, events, hRuns⟩ := exists_runs
    (fun c => (pure (onePluginHost (.ok ()) c) : StateM Unit c.Answer)) (fun _ => pure ())
    ((perform operation).run l) ()
  obtain ⟨outcome, after, hResult, _⟩ := runs_perform hRuns
  rw [hResult] at hRuns
  exact ⟨⟨operation, l, calls, events, outcome, after, hRuns⟩, rfl, rfl⟩

theorem History.invariant {config : Config} {P : Loader → Prop} (hNew : P (.new config))
    (hStep : ∀ step : Step, P step.before → P step.after) {steps : List Step} {l : Loader}
    (h : History config steps l) : P l := by
  induction h with
  | new => exact hNew
  | next step _ ih => exact hStep step ih

/-- Steps that follow one another from a loader on, whatever its past was. -/
inductive Path : Loader → List Step → Loader → Prop where
  | done (l : Loader) : Path l [] l
  | next {steps : List Step} {l : Loader} (step : Step) (h : Path step.after steps l) :
      Path step.before (step :: steps) l

theorem Path.split {l l' : Loader} {earlier later : List Step} {step : Step}
    (h : Path l (earlier ++ step :: later) l') : Path l earlier step.before ∧ Path step.after later l' := by
  induction earlier generalizing l with
  | nil =>
    cases h with
    | next _ hLater => exact ⟨.done _, hLater⟩
  | cons s earlier ih =>
    cases h with
    | next _ hRest =>
      obtain ⟨hEarlier, hLater⟩ := ih hRest
      exact ⟨.next s hEarlier, hLater⟩

@[simp] theorem callsOf_cons (step : Step) (steps : List Step) :
    callsOf (step :: steps) = step.calls ++ callsOf steps := rfl

end GuestPlugin.Loader
