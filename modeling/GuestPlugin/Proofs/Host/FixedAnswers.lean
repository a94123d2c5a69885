import GuestPlugin.Config
import GuestPlugin.Host.Runs
import GuestPlugin.Proofs.Container.Acceptance

/-! # Hosts with fixed answers

A host whose answer to a call never changes performs a program in one way, and what comes of it can be
computed. So runs with a given end are found by evaluation.
-/

set_option autoImplicit false

namespace GuestPlugin

namespace Program

variable {α : Type}

/-- What a program comes to with these answers. -/
def valueWith (answer : (c : HostCall) → c.Answer) (p : Program α) : Option α :=
  (StateT.run (p.run (fun c => pure (answer c)) fun _ => pure () : StateM Unit (Option α)) ()).run.1

theorem exists_runs_of_valueWith {β : Type} {answer : (c : HostCall) → c.Answer} {p : Program α}
    {f : α → β} {b : β} (h : (p.valueWith answer).map f = some b) :
    ∃ calls events a, Runs p calls events (some a) ∧ f a = b := by
  obtain ⟨calls, events, hRuns⟩ :=
    exists_runs (fun c => (pure (answer c) : StateM Unit c.Answer)) (fun _ => pure ()) p ()
  obtain ⟨a, hValue, hf⟩ := Option.map_eq_some_iff.mp h
  rw [valueWith] at hValue
  rw [hValue] at hRuns
  exact ⟨calls, events, a, hRuns, hf⟩

end Program

/-- A host with one small plugin for every title. It grants all requests; what it answers to the one for
a page of a guest is left open. -/
def onePluginHost (page : Except ResultCode Unit) : (c : HostCall) → c.Answer
  | .openDirectory _ => .error ⟨"missing"⟩
  | .readDirectory _ _ => .error ⟨"missing"⟩
  | .openFile _ => .ok (.ofContent Container.smallFile)
  | .allocate size => .ok ⟨1, size, .replicate size.toNat 0xAA⟩
  | .free _ => ()
  | .titleOf _ => .ok ⟨0⟩
  | .control _ _ => .ok ()
  | .mapRegion _ _ _ => .ok ()
  | .unmapRegion _ _ _ => ()
  | .mapGuest _ _ _ => page
  | .unmapGuest _ _ => ()
  | .readWord _ => 0
  | .writeWord _ _ => ()
  | .flush => ()

/-- A configuration with room for the small plugin and no byte more. -/
def tightConfig : Config := (Config.stock 0).withTierSize .default 0x1088

end GuestPlugin
