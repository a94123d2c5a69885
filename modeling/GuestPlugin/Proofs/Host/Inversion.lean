import GuestPlugin.Host.Reservation
import GuestPlugin.Host.Runs

/-! # The runs of programs that are written out

One equivalence for each way a program can begin. A program that never aborts on any answers has runs
with a value only, which is how totality is stated here.
-/

set_option autoImplicit false

namespace GuestPlugin

namespace Program

variable {α β : Type} {calls : List Exchange} {events : List Event}

theorem runs_done_iff {a : α} {result : Option α} :
    Runs (.done a) calls events result ↔ calls = [] ∧ events = [] ∧ result = some a :=
  runs_pure_iff

theorem runs_call_iff {c : HostCall} {rest : c.Answer → Program α} {result : Option α} :
    Runs (.call c rest) calls events result ↔
      ∃ answer later, calls = ⟨c, answer⟩ :: later ∧ Runs (rest answer) later events result := by
  constructor
  · intro h
    cases h with
    | call answer h => exact ⟨answer, _, rfl, h⟩
  · rintro ⟨answer, later, rfl, h⟩
    exact .call answer h

theorem runs_emit_iff {e : Event} {rest : Program α} {result : Option α} :
    Runs (.emit e rest) calls events result ↔
      ∃ later, events = e :: later ∧ Runs rest calls later result := by
  constructor
  · intro h
    cases h with
    | emit _ h => exact ⟨_, rfl, h⟩
  · rintro ⟨later, rfl, h⟩
    exact .emit e h

theorem runs_ask_bind_iff {c : HostCall} {f : c.Answer → Program β} {result : Option β} :
    Runs (ask c >>= f) calls events result ↔
      ∃ answer later, calls = ⟨c, answer⟩ :: later ∧ Runs (f answer) later events result :=
  runs_call_iff

theorem runs_report_bind_iff {e : Event} {f : Unit → Program β} {result : Option β} :
    Runs (report e >>= f) calls events result ↔
      ∃ later, events = e :: later ∧ Runs (f ()) calls later result :=
  runs_emit_iff

/-- Every run ends with a value. -/
def Total (p : Program α) : Prop :=
  ∀ ⦃calls : List Exchange⦄ ⦃events : List Event⦄ ⦃result : Option α⦄,
    Runs p calls events result → result.isSome

theorem Total.runs_bind_iff {p : Program α} (h : Total p) {f : α → Program β} {result : Option β} :
    Runs (p.bind f) calls events result ↔
      ∃ a calls₁ calls₂ events₁ events₂, Runs p calls₁ events₁ (some a) ∧
        Runs (f a) calls₂ events₂ result ∧ calls = calls₁ ++ calls₂ ∧
        events = events₁ ++ events₂ := by
  constructor
  · intro hRuns
    rcases Program.runs_bind_iff.mp hRuns with hSome | ⟨_, hNone⟩
    · exact hSome
    · cases h hNone
  · intro hSome
    exact Program.runs_bind_iff.mpr (.inl hSome)

/-- Every run ends with a value, and all its calls are of one kind. -/
def Within (kind : HostCall → Prop) (p : Program α) : Prop :=
  ∀ ⦃calls : List Exchange⦄ ⦃events : List Event⦄ ⦃result : Option α⦄,
    Runs p calls events result → result.isSome ∧ ∀ x ∈ calls, kind x.1

variable {kind : HostCall → Prop}

theorem Within.total {p : Program α} (h : Within kind p) : Total p :=
  fun _ _ _ hRuns => (h hRuns).1

theorem within_done (a : α) : Within kind (.done a) := by
  intro calls events result h
  obtain ⟨rfl, rfl, rfl⟩ := runs_done_iff.mp h
  exact ⟨rfl, List.forall_mem_nil _⟩

theorem within_call {c : HostCall} {rest : c.Answer → Program α} (hKind : kind c)
    (h : ∀ answer, Within kind (rest answer)) : Within kind (.call c rest) := by
  intro calls events result hRuns
  obtain ⟨answer, later, rfl, hRest⟩ := runs_call_iff.mp hRuns
  obtain ⟨hSome, hLater⟩ := h answer hRest
  exact ⟨hSome, List.forall_mem_cons.mpr ⟨hKind, hLater⟩⟩

theorem within_emit {e : Event} {rest : Program α} (h : Within kind rest) :
    Within kind (.emit e rest) := by
  intro calls events result hRuns
  obtain ⟨later, _, hRest⟩ := runs_emit_iff.mp hRuns
  exact h hRest

theorem Within.bind {p : Program α} (h : Within kind p) {f : α → Program β}
    (hf : ∀ a, Within kind (f a)) : Within kind (p.bind f) := by
  intro calls events result hRuns
  obtain ⟨a, _, _, _, _, hFirst, hRest, rfl, _⟩ := h.total.runs_bind_iff.mp hRuns
  obtain ⟨hSome, hCalls⟩ := hf a hRest
  exact ⟨hSome, List.forall_mem_append.mpr ⟨(h hFirst).2, hCalls⟩⟩

end Program

namespace Reservation

open Program

def releaseCalls : Option Region → List Exchange
  | none => []
  | some region => [⟨.free region.toBlock, ()⟩]

theorem forall_mem_releaseCalls {P : Exchange → Prop} (held : Option Region)
    (h : ∀ block, P ⟨.free block, ()⟩) : ∀ x ∈ releaseCalls held, P x := by
  cases held with
  | none => exact List.forall_mem_nil _
  | some region => exact List.forall_mem_singleton.mpr (h region.toBlock)

theorem runs_release {held : Option Region} {calls : List Exchange} {events : List Event}
    {result : Option Bool} (h : Runs (release held) calls events result) :
    calls = releaseCalls held ∧ events = [] ∧ result = some held.isSome := by
  cases held with
  | none => exact runs_pure_iff.mp h
  | some region =>
    obtain ⟨answer, later, rfl, hRest⟩ := runs_ask_bind_iff.mp h
    obtain ⟨rfl, rfl, rfl⟩ := runs_pure_iff.mp hRest
    exact ⟨rfl, rfl, rfl⟩

theorem release_total (held : Option Region) : Total (release held) := by
  intro calls events result h
  obtain ⟨_, _, rfl⟩ := runs_release h
  rfl

inductive Reserved (held : Option Region) (tier : Tier) (size : UInt32) :
    List Exchange → List Event → Except ResourceError Region → Prop where
  | granted (block : Block) :
      Reserved held tier size (releaseCalls held ++ [⟨.allocate size, .ok block⟩]) []
        (.ok { block with tier })
  | refused (code : ResultCode) :
      Reserved held tier size (releaseCalls held ++ [⟨.allocate size, .error code⟩])
        [.allocationRefused size code] (.error (.allocationRefused size))

theorem runs_reserve {held : Option Region} {tier : Tier} {size : UInt32} {calls : List Exchange}
    {events : List Event} {result : Option (Except ResourceError Region)}
    (h : Runs (reserve held tier size) calls events result) :
    ∃ outcome, result = some outcome ∧ Reserved held tier size calls events outcome := by
  obtain ⟨_, _, _, _, _, hRelease, hRequest, rfl, rfl⟩ := (release_total held).runs_bind_iff.mp h
  obtain ⟨rfl, rfl, _⟩ := runs_release hRelease
  obtain ⟨answer, later, rfl, hAnswer⟩ := runs_ask_bind_iff.mp hRequest
  cases answer with
  | ok block =>
    obtain ⟨rfl, rfl, rfl⟩ := runs_pure_iff.mp hAnswer
    exact ⟨_, rfl, .granted block⟩
  | error code =>
    obtain ⟨_, rfl, hEnd⟩ := runs_report_bind_iff.mp hAnswer
    obtain ⟨rfl, rfl, rfl⟩ := runs_pure_iff.mp hEnd
    exact ⟨_, rfl, .refused code⟩

theorem reserve_total (held : Option Region) (tier : Tier) (size : UInt32) :
    Total (reserve held tier size) := by
  intro calls events result h
  obtain ⟨_, rfl, _⟩ := runs_reserve h
  rfl

end Reservation
end GuestPlugin
