import GuestPlugin.Proofs.Host.Inversion

/-! # Hosts whose answers depend on what was asked before

The answer of an oracle to a call is settled by the calls that were made and answered before. Blocks that
were freed are left out of that past, so an oracle answers the same whether a block was freed or not. A
program performed by an oracle has one run, and so two programs that make the same calls cannot be told
apart by it.
-/

set_option autoImplicit false

namespace GuestPlugin.Program

variable {α β : Type}

/-- A host that answers a call by what was asked and answered before. -/
abbrev Oracle := List Exchange → (c : HostCall) → c.Answer

/-- The past with one more call in it, unless that call only frees a block. -/
def remember (past : List Exchange) : Exchange → List Exchange
  | ⟨.free _, _⟩ => past
  | x => past ++ [x]

/-- Calls with the answers that an oracle gives to them, one after the other. -/
def AnsweredBy (host : Oracle) (past : List Exchange) : List Exchange → Prop
  | [] => True
  | ⟨c, answer⟩ :: rest =>
    answer = host past c ∧ AnsweredBy host (remember past ⟨c, answer⟩) rest

variable {host : Oracle} {past before later calls : List Exchange} {events : List Event}

theorem answeredBy_append_iff :
    AnsweredBy host past (before ++ later) ↔
      AnsweredBy host past before ∧ AnsweredBy host (before.foldl remember past) later := by
  induction before generalizing past with
  | nil => simp [AnsweredBy]
  | cons x rest ih => simp only [List.cons_append, AnsweredBy, ih, List.foldl_cons, and_assoc]

/-- An oracle does not notice that a block is given back. -/
theorem answeredBy_release_iff (held : Option Region) :
    AnsweredBy host past (before ++ Reservation.releaseCalls held ++ later) ↔
      AnsweredBy host past (before ++ later) := by
  cases held <;> simp [answeredBy_append_iff, Reservation.releaseCalls, AnsweredBy, remember]

/-- What is seen of a program that is performed. -/
structure Performance (α : Type) where
  calls : List Exchange
  events : List Event
  result : Option α

def performance (host : Oracle) (past : List Exchange) : Program α → Performance α
  | .done a => ⟨[], [], some a⟩
  | .call c rest =>
    let x : Exchange := ⟨c, host past c⟩
    let p := (rest x.2).performance host (remember past x)
    { p with calls := x :: p.calls }
  | .emit e rest =>
    let p := rest.performance host past
    { p with events := e :: p.events }
  | .abort => ⟨[], [], none⟩

theorem runs_performance (host : Oracle) (past : List Exchange) (p : Program α) :
    Runs p (p.performance host past).calls (p.performance host past).events
      (p.performance host past).result := by
  induction p generalizing past with
  | done a => exact .done a
  | call c rest ih => exact .call _ (ih _ _)
  | emit e rest ih => exact .emit e (ih _)
  | abort => exact .abort

theorem answeredBy_performance (host : Oracle) (past : List Exchange) (p : Program α) :
    AnsweredBy host past (p.performance host past).calls := by
  induction p generalizing past with
  | done a => trivial
  | call c rest ih => exact ⟨rfl, ih _ _⟩
  | emit e rest ih => exact ih _
  | abort => trivial

/-- A run whose calls an oracle answers is the one that the oracle makes of the program. -/
theorem Runs.eq_performance {p : Program α} {result : Option α} (h : Runs p calls events result)
    (hAnswered : AnsweredBy host past calls) : p.performance host past = ⟨calls, events, result⟩ := by
  induction h generalizing past with
  | done a => rfl
  | call answer _ ih =>
    obtain ⟨rfl, hRest⟩ := hAnswered
    rw [performance]
    simp only [ih hRest]
  | emit e _ ih => rw [performance, ih hAnswered]
  | abort => rfl

theorem exists_runs_answeredBy (host : Oracle) (past : List Exchange) {p : Program α} {f : α → β}
    {b : β} (h : (p.performance host past).result.map f = some b) :
    ∃ calls events a, Runs p calls events (some a) ∧ f a = b ∧ AnsweredBy host past calls := by
  obtain ⟨a, hResult, hf⟩ := Option.map_eq_some_iff.mp h
  have hRuns := runs_performance host past p
  rw [hResult] at hRuns
  exact ⟨_, _, a, hRuns, hf, answeredBy_performance host past p⟩

end GuestPlugin.Program
