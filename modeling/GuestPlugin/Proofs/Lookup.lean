import GuestPlugin.Lookup
import GuestPlugin.Proofs.Host.Inversion

/-! # Lookup asks the storage only

Whatever a storage answers, the search for a plugin ends, and neither the pool nor the kernel is asked
for anything on the way.
-/

set_option autoImplicit false

namespace GuestPlugin

/-- Calls that only look at files and directories. -/
def HostCall.IsStorage : HostCall → Prop
  | .openDirectory _ => True
  | .readDirectory _ _ => True
  | .openFile _ => True
  | _ => False

theorem HostCall.IsStorage.of_exchange {P : Program.Exchange → Prop}
    (hOpen : ∀ path answer, P ⟨.openDirectory path, answer⟩)
    (hRead : ∀ directory max answer, P ⟨.readDirectory directory max, answer⟩)
    (hFile : ∀ path answer, P ⟨.openFile path, answer⟩) {x : Program.Exchange}
    (h : x.1.IsStorage) : P x := by
  obtain ⟨c, answer⟩ := x
  cases c with
  | openDirectory path => exact hOpen path answer
  | readDirectory directory max => exact hRead directory max answer
  | openFile path => exact hFile path answer
  | _ => exact h.elim

namespace Lookup

open Program

theorem scan_within (config : Config) (path : Path) (directory : OpenDirectory) :
    Within HostCall.IsStorage (scan config path directory) := by
  induction directory using scan.induct with
  | case1 directory ih =>
    rw [scan]
    refine within_call (by trivial) ?_
    rintro (failure | ⟨_ | ⟨first, others⟩, hFits⟩)
    · exact within_done none
    · exact within_done none
    · apply within_emit
      split
      · exact within_done _
      · exact ih first others hFits

theorem titlePlugin_within (config : Config) (title : TitleId) :
    Within HostCall.IsStorage (titlePlugin config title) := by
  refine within_call (by trivial) ?_
  rintro (failure | directory)
  · exact within_done none
  · exact scan_within _ _ directory

theorem openTitlePlugin_within (config : Config) (title : TitleId) :
    Within HostCall.IsStorage (openTitlePlugin config title) := by
  apply (titlePlugin_within config title).bind
  rintro (_ | path)
  · exact within_done none
  · refine within_call (by trivial) ?_
    rintro (failure | stream)
    · exact within_emit (within_done none)
    · exact within_done _

theorem openPlugin_within (config : Config) (title : TitleId) :
    Within HostCall.IsStorage (openPlugin config title) := by
  apply (openTitlePlugin_within config title).bind
  rintro (_ | plugin)
  · refine within_call (by trivial) ?_
    rintro (failure | stream) <;> exact within_done _
  · exact within_done _

theorem openForced_within (path : Path) : Within HostCall.IsStorage (openForced path) := by
  refine within_call (by trivial) ?_
  rintro (failure | stream) <;> exact within_done _

end Lookup
end GuestPlugin
