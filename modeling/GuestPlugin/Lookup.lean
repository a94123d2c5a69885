import GuestPlugin.Config
import GuestPlugin.Host.Program

/-! # Finding the plugin of a guest

The plugin of a title is the first candidate in its directory, in the order of the entries; how the
reads split them does not matter. Without one that opens, the default plugin is tried, once and last.
A forced file has no fallback.
-/

set_option autoImplicit false

namespace GuestPlugin

structure OpenedPlugin where
  path : Path
  stream : Stream
  isDefault : Bool

namespace Lookup

open Program (ask report)

/-- Reads on from an open directory up to the batch that holds a candidate. An empty batch or a
failing read ends the search. -/
def scan (config : Config) (path : Path) (directory : OpenDirectory) : Program (Option Path) :=
  .call (.readDirectory directory config.batchSize) fun
    | .error _ => .done none
    | .ok ⟨[], _⟩ => .done none
    | .ok ⟨first :: others, fits⟩ =>
      have shrinks : directory.remaining - (others.length + 1) < directory.remaining := by
        simp only [List.length_cons] at fits
        omega
      .emit (.scanningDirectory path (others.length + 1)) <|
        match (first :: others).find? (·.isPlugin config.extension) with
        | some entry => .done (some (path.join ⟨entry.name⟩))
        | none =>
          scan config path
            { directory with remaining := directory.remaining - (others.length + 1) }
termination_by directory.remaining
decreasing_by exact shrinks

def titlePlugin (config : Config) (title : TitleId) : Program (Option Path) := do
  let path := config.titleDirectory title
  match ← ask (.openDirectory path) with
  | .error _ => return none
  | .ok directory => scan config path directory

def openTitlePlugin (config : Config) (title : TitleId) : Program (Option OpenedPlugin) := do
  match ← titlePlugin config title with
  | none => return none
  | some path =>
    match ← ask (.openFile path) with
    | .ok stream => return some ⟨path, stream, false⟩
    | .error failure =>
      report (.titlePluginUnavailable path failure)
      return none

def openPlugin (config : Config) (title : TitleId) : Program (Except LookupError OpenedPlugin) := do
  match ← openTitlePlugin config title with
  | some plugin => return .ok plugin
  | none =>
    match ← ask (.openFile config.defaultPlugin) with
    | .ok stream => return .ok ⟨config.defaultPlugin, stream, true⟩
    | .error _ => return .error (.notFound title)

def openForced (path : Path) : Program (Except LookupError OpenedPlugin) := do
  match ← ask (.openFile path) with
  | .ok stream => return .ok ⟨path, stream, false⟩
  | .error _ => return .error (.forcedFileUnavailable path)

end Lookup
end GuestPlugin
