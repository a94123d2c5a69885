import GuestPlugin.Proofs.Loader.ForcedUse
import GuestPlugin.Proofs.Lookup.Resolution

/-! # What a loader remembers of an attached plugin

A load forgets first and then fills its context from three sources: the resolution, the container, and for
the strategy the forced load or the configuration. All of it is in place when the container is admitted,
and the stages behind that touch nothing of it. One file is opened in such a load, and it is the one that
the context speaks of.
-/

set_option autoImplicit false

namespace GuestPlugin

open Program

namespace Context

/-- A context that says of an opened plugin what its path, its origin and its container say. The strategy
is the chosen one, unless that is to swap and the plugin can do without. -/
structure Mirrors (c : Context) (plugin : OpenedPlugin) (container : Container)
    (chosen : MemoryStrategy) : Prop where
  pluginPath : c.pluginPath = some plugin.path
  isDefault : c.isDefault = plugin.isDefault
  managesEvents : c.managesEvents = container.manifest.managesEvents
  privateMemory : c.privateMemory = container.manifest.privateMemory
  checksum : c.checksum = container.manifest.checksum
  payloads : c.payloads = container.payloads
  strategy : c.strategy =
    if chosen = .swap ∧ container.manifest.swapNotNeeded = true then .none else chosen

theorem settle_eq_ite (swapNotNeeded : Bool) (strategy : MemoryStrategy) :
    settle swapNotNeeded strategy =
      if strategy = .swap ∧ swapNotNeeded = true then .none else strategy := by
  cases strategy <;> cases swapNotNeeded <;> rfl

end Context

namespace Loader

variable {l l' : Loader} {guest : Guest} {homebrew : Bool} {title : TitleId}
  {search calls : List Exchange} {events : List Event} {plugin : OpenedPlugin}

/-- How a load comes by a plugin: the file of the forced load if one applies to the title, and what the
lookup of the title finds otherwise. -/
inductive Resolves (l : Loader) (title : TitleId) : List Exchange → OpenedPlugin → Prop where
  | forced {forced : ForcedLoad} {stream : Stream}
      (hApplies : l.context.forced.filter (·.appliesTo title) = some forced) :
      Resolves l title [⟨.openFile forced.path, .ok stream⟩] ⟨forced.path, stream, false⟩
  | found {search : List Exchange} {events : List Event} {plugin : OpenedPlugin}
      (hNone : l.context.forced.filter (·.appliesTo title) = none)
      (hLookup : Runs (Lookup.openPlugin l.config title) search events (some (.ok plugin))) :
      Resolves l title search plugin

theorem resolves_of_lookup (h : Runs (l.lookup title) search events (some (.ok plugin))) :
    l.Resolves title search plugin := by
  have hFor := forcedFor_eq_filter l title
  rw [lookup] at h
  cases hForced : l.forcedFor title with
  | none =>
    rw [hForced] at h hFor
    exact .found hFor.symm h
  | some forced =>
    rw [hForced] at h hFor
    obtain ⟨answer, later, rfl, hEnd⟩ := runs_ask_bind_iff.mp h
    cases answer with
    | error failure => cases (runs_pure_iff.mp hEnd).2.2
    | ok stream =>
      obtain ⟨rfl, _, ⟨⟩⟩ := runs_pure_iff.mp hEnd
      exact .forced hFor.symm

/-- Of all files that are tried, the plugin's is the one that opens. -/
theorem Resolves.opens_iff (h : l.Resolves title search plugin) (path : GuestPlugin.Path)
    (stream : Stream) :
    ⟨.openFile path, .ok stream⟩ ∈ search ↔ path = plugin.path ∧ stream = plugin.stream := by
  cases h with
  | forced hApplies =>
    rw [List.mem_singleton]
    constructor
    · rintro ⟨⟩
      exact ⟨rfl, rfl⟩
    · rintro ⟨rfl, rfl⟩
      rfl
  | found hNone hLookup =>
    obtain ⟨own?, seen, opens, plugin?, hSought, rfl, hOpens, hResult⟩ :=
      Lookup.runs_openPlugin hLookup
    obtain rfl := Lookup.resolution_eq_ok_iff.mp (Option.some.inj hResult).symm
    have hSeen : (⟨.openFile path, .ok stream⟩ : Exchange) ∉ seen :=
      fun hMem => hSought.not_isOpenFile _ hMem trivial
    rw [List.mem_append, or_iff_right hSeen, ← hOpens.eq_some_iff]
    constructor
    · rintro ⟨_, hPlugin⟩
      cases hPlugin
      exact ⟨rfl, rfl⟩
    · rintro ⟨rfl, rfl⟩
      exact ⟨plugin.isDefault, rfl⟩

theorem Admitted.mirrors (a : Admitted l homebrew) :
    a.loader.context.Mirrors a.plugin a.container
      ((l.context.forced.filter (·.appliesTo a.title)).elim l.context.strategy (·.strategy)) := by
  refine ⟨rfl, rfl, rfl, rfl, rfl, rfl, ?_⟩
  rw [← forcedFor_eq_filter, ← Context.settle_eq_ite]
  rfl

/-- Only the state and the saved words are still set when the container is admitted. -/
theorem Ready.mirrors (r : Ready l homebrew) (saved : SavedEntry) :
    ((r.loader.hooking saved).inState .attached).context.Mirrors r.plugin r.container
      ((l.context.forced.filter (·.appliesTo r.title)).elim l.context.strategy (·.strategy)) := by
  obtain ⟨hPath, hDefault, hEvents, hPrivate, hChecksum, hPayloads, hStrategy⟩ :=
    r.toAdmitted.mirrors
  exact ⟨hPath, hDefault, hEvents, hPrivate, hChecksum, hPayloads, hStrategy⟩

/-- Behind the search no file is opened any more. -/
theorem Ready.exists_calls (r : Ready l homebrew) {attaching : List Exchange} {saved : SavedEntry}
    (hAttach : Attach.Course l.config guest r.region.toBlock attaching (.ok saved)) :
    ∃ later, r.calls guest ++ attaching = ⟨.titleOf guest, .ok r.title⟩ :: (r.lookupCalls ++ later) ∧
      ∀ x ∈ later, ¬ x.1.IsStorage := by
  refine ⟨Reservation.releaseCalls l.held ++
    ([⟨.allocate r.toAdmitted.size, .ok r.block⟩] ++ attaching), ?_, ?_⟩
  · simp only [Granted.calls, Opened.calls, List.cons_append, List.append_assoc]
  · exact forall_mem_taking (fun _ => id) id fun x hx => (hAttach.names x hx).1

/-- After a load that succeeds the context mirrors the container that was parsed from the one file opened
in this load. Where it came from, and which strategy was chosen for it, is decided by the forced load if
one applied, and by the lookup and the configuration otherwise. -/
theorem tryLoad_ok_context
    (h : Runs ((tryLoad guest homebrew).run l) calls events (some (.ok (), l'))) :
    ∃ (title : TitleId) (search later : List Exchange) (plugin : OpenedPlugin)
      (container : Container) (after : Stream) (region : Region),
      calls = ⟨.titleOf guest, .ok title⟩ :: (search ++ later) ∧
      l.Resolves title search plugin ∧
      (∀ path stream, ⟨.openFile path, .ok stream⟩ ∈ calls ↔
        path = plugin.path ∧ stream = plugin.stream) ∧
      Container.parse plugin.stream = (.ok container, after) ∧
      l'.context.Mirrors plugin container
        ((l.context.forced.filter (·.appliesTo title)).elim l.config.strategy (·.strategy)) ∧
      l'.held = some region ∧ region.tier = container.manifest.tier := by
  cases attempt_of_runs h with
  | succeeded hCourse =>
    cases hCourse with
    | @attached r _ saved hAttach =>
      obtain ⟨later, hCalls, hLater⟩ := r.exists_calls hAttach
      -- What is forgotten first takes no part in the lookup.
      have hFound : Runs (l.lookup r.title) r.lookupCalls r.lookupEvents (some (.ok r.plugin)) :=
        r.found
      have hResolves := resolves_of_lookup hFound
      refine ⟨r.title, r.lookupCalls, later, r.plugin, r.container, r.stream, r.region, hCalls,
        hResolves, ?_, r.parsed, r.mirrors saved, rfl, rfl⟩
      intro path stream
      have hOther : (⟨.openFile path, .ok stream⟩ : Exchange) ∉ later :=
        fun hMem => hLater _ hMem trivial
      rw [hCalls, List.mem_cons, List.mem_append, or_iff_left hOther, ← hResolves.opens_iff]
      exact or_iff_right nofun

/-- The small plugin once more, which manages its events, keeps its memory and does not need to swap. -/
def frugalFile : ByteArray :=
  ("3GX$".toUTF8.data.toList ++ LittleEndian.encodeWords
    (2 :: 0x01000000 :: 0x0101 :: List.replicate 19 0 ++
      [0x88, 0, 0, 4, 0, 0, 0, 0, 0, 0, 0, 0xE12FFF1E])).toByteArray

def twoPluginHost : (c : HostCall) → c.Answer
  | .openFile path =>
    .ok (.ofContent (if path = ⟨"/frugal.3gx"⟩ then frugalFile else Container.smallFile))
  | c => onePluginHost (.ok ()) c

def frugalForced : ForcedLoad := ⟨none, ⟨"/frugal.3gx"⟩, false, .swap, .replicate 32 0⟩

def frugalLoader : Loader :=
  ⟨tightConfig, none, .fresh tightConfig.strategy (some frugalForced)⟩

set_option maxRecDepth 100000 in
theorem frugal_plugin_mirrored :
    ∃ calls events l' container after region, ∃ plugin : OpenedPlugin,
      Runs ((tryLoad ⟨1⟩ false).run frugalLoader) calls events (some (.ok (), l')) ∧
      ⟨.openFile ⟨"/frugal.3gx"⟩, .ok plugin.stream⟩ ∈ calls ∧
      Container.parse plugin.stream = (.ok container, after) ∧
      l'.context.Mirrors plugin container .swap ∧ l'.context.strategy = .none ∧
      l'.context.pluginPath = some ⟨"/frugal.3gx"⟩ ∧ l'.context.isDefault = false ∧
      l'.held = some region ∧ region.tier = container.manifest.tier := by
  have hValue : (((tryLoad ⟨1⟩ false).run frugalLoader).valueWith twoPluginHost).map
      (fun r => (r.1, r.2.context.strategy)) = some (.ok (), .none) := by decide +kernel
  obtain ⟨calls, events, ⟨outcome, l'⟩, hRuns, hEnd⟩ := exists_runs_of_valueWith hValue
  obtain ⟨rfl, hStrategy⟩ := Prod.mk.inj hEnd
  obtain ⟨title, search, later, plugin, container, after, region, _, hResolves, hOpened, hParse,
    hMirrors, hHeld, hTier⟩ := tryLoad_ok_context hRuns
  have hApplies : frugalLoader.context.forced.filter (·.appliesTo title) = some frugalForced := rfl
  rw [hApplies] at hMirrors
  cases hResolves with
  | found hNone _ => cases hNone.symm.trans hApplies
  | forced hOther =>
    cases hOther.symm.trans hApplies
    exact ⟨calls, events, l', container, after, region, _, hRuns, (hOpened _ _).mpr ⟨rfl, rfl⟩, hParse,
      hMirrors, hStrategy, hMirrors.pluginPath, hMirrors.isDefault, hHeld, hTier⟩

end Loader
end GuestPlugin
