import GuestPlugin.Lookup
import GuestPlugin.Proofs.Host.Inversion

/-! # What a program reports

Changes of the state of a load stand among other reports. A detail is a report that changes no state and
is not meant for an operator; a search for a plugin reports nothing else, whatever the storage answers.
-/

set_option autoImplicit false

namespace GuestPlugin

/-- The change of state that an event records. -/
def Event.change? : Event → Option (LoadState × LoadState)
  | .stateChanged old new => some (old, new)
  | _ => none

structure Event.IsDetail (e : Event) : Prop where
  unchanged : e.change? = none
  not_info : e.level ≠ .info
  not_warn : e.level ≠ .warn

namespace Program

variable {α β : Type} {kind : Event → Prop}

/-- All reports of every run are of one kind. -/
def Reports (kind : Event → Prop) (p : Program α) : Prop :=
  ∀ ⦃calls : List Exchange⦄ ⦃events : List Event⦄ ⦃result : Option α⦄,
    Runs p calls events result → ∀ e ∈ events, kind e

theorem reports_done (a : α) : Reports kind (.done a) := by
  intro calls events result h
  obtain ⟨_, rfl, _⟩ := runs_done_iff.mp h
  exact List.forall_mem_nil _

theorem reports_call {c : HostCall} {rest : c.Answer → Program α}
    (h : ∀ answer, Reports kind (rest answer)) : Reports kind (.call c rest) := by
  intro calls events result hRuns
  obtain ⟨answer, later, _, hRest⟩ := runs_call_iff.mp hRuns
  exact h answer hRest

theorem reports_emit {e : Event} {rest : Program α} (hKind : kind e) (h : Reports kind rest) :
    Reports kind (.emit e rest) := by
  intro calls events result hRuns
  obtain ⟨later, rfl, hRest⟩ := runs_emit_iff.mp hRuns
  exact List.forall_mem_cons.mpr ⟨hKind, h hRest⟩

theorem Reports.bind {p : Program α} (h : Reports kind p) {f : α → Program β}
    (hf : ∀ a, Reports kind (f a)) : Reports kind (p.bind f) := by
  intro calls events result hRuns
  rcases runs_bind_iff.mp hRuns with ⟨a, _, _, _, _, hFirst, hRest, _, rfl⟩ | ⟨_, hNone⟩
  · exact List.forall_mem_append.mpr ⟨h hFirst, hf a hRest⟩
  · exact h hNone

end Program

namespace Lookup

open Program

theorem isDetail_scanningDirectory (directory : Path) (entries : Nat) :
    (Event.scanningDirectory directory entries).IsDetail := ⟨rfl, nofun, nofun⟩

theorem isDetail_titlePluginUnavailable (path : Path) (failure : StorageFailure) :
    (Event.titlePluginUnavailable path failure).IsDetail := ⟨rfl, nofun, nofun⟩

theorem scan_reports (config : Config) (path : Path) (directory : OpenDirectory) :
    Reports Event.IsDetail (scan config path directory) := by
  induction directory using scan.induct with
  | case1 directory ih =>
    rw [scan]
    apply reports_call
    rintro (failure | ⟨_ | ⟨first, others⟩, hFits⟩)
    · exact reports_done none
    · exact reports_done none
    · apply reports_emit (isDetail_scanningDirectory _ _)
      split
      · exact reports_done _
      · exact ih first others hFits

theorem openTitlePlugin_reports (config : Config) (title : TitleId) :
    Reports Event.IsDetail (openTitlePlugin config title) := by
  have hSearch : Reports Event.IsDetail (titlePlugin config title) := by
    apply reports_call
    rintro (failure | directory)
    · exact reports_done none
    · exact scan_reports _ _ directory
  apply hSearch.bind
  rintro (_ | path)
  · exact reports_done none
  · apply reports_call
    rintro (failure | stream)
    · exact reports_emit (isDetail_titlePluginUnavailable _ _) (reports_done none)
    · exact reports_done _

theorem openPlugin_reports (config : Config) (title : TitleId) :
    Reports Event.IsDetail (openPlugin config title) := by
  apply (openTitlePlugin_reports config title).bind
  rintro (_ | plugin)
  · apply reports_call
    rintro (failure | stream)
    · exact reports_done _
    · exact reports_done _
  · exact reports_done _

theorem openForced_reports (path : Path) : Reports Event.IsDetail (openForced path) := by
  apply reports_call
  rintro (failure | stream)
  · exact reports_done _
  · exact reports_done _

end Lookup
end GuestPlugin
