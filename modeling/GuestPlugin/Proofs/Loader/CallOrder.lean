import GuestPlugin.Proofs.Guest.WordAccess
import GuestPlugin.Proofs.Host.Script
import GuestPlugin.Proofs.Loader.FailedLoad
import GuestPlugin.Proofs.Loader.Lifecycle

/-! # The order of calls in a load

The calls of a load follow one script: the title and the search, then the block, then the attaching. A
load that succeeds makes all of them. One that fails stops at the call that was refused, or after the search
or the allocation when what was found cannot be used, and then cleans up. The region is taken back from the
guest only if it was the page that was refused, for then it was mapped.
-/

set_option autoImplicit false

namespace GuestPlugin

open Program

instance : Inhabited Block := ⟨⟨0, 0, .replicate _ 0⟩⟩

/-- The calls of an attempt to attach a block, if none is refused. The page begins with the multiple of its
size at or below the entry. -/
def Attach.script (config : Config) (guest : Guest) (block : Block) : List HostCall :=
  [.control guest .unprotectCode, .control guest .signalOnExit,
    .mapRegion guest block config.heapAddress,
    .mapGuest guest (config.entryAddress / 0x1000 * 0x1000) 0x1000,
    .readWord config.entryAddress, .readWord (config.entryAddress + 4),
    .writeWord config.entryAddress 0xE51FF004,
    .writeWord (config.entryAddress + 4) config.trampoline,
    .flush, .unmapGuest (config.entryAddress / 0x1000 * 0x1000) 0x1000]

/-- What undoes a mapping, where the calls end with a page that was refused. -/
def Attach.undoCalls (unmap : Exchange) (made : List Exchange) : List Exchange :=
  match made.getLast? with
  | some ⟨.mapGuest _ _ _, .error _⟩ => [unmap]
  | _ => []

namespace Attach

theorem undoCalls_of_granted {made : List Exchange} (h : ∀ x ∈ made, ¬ Refused x)
    (unmap : Exchange) : undoCalls unmap made = [] := by
  unfold undoCalls
  split
  · rename_i hLast
    exact absurd trivial (h _ (List.mem_of_getLast? hLast))
  · rfl

theorem undoCalls_append {made : List Exchange} (h : ∃ x, made.getLast? = some x ∧ Refused x)
    (first : List Exchange) (unmap : Exchange) :
    undoCalls unmap (first ++ made) = undoCalls unmap made := by
  obtain ⟨x, hLast, _⟩ := h
  rw [undoCalls, undoCalls, List.getLast?_append, hLast, Option.some_or]

variable {config : Config} {guest : Guest} {block : Block} {calls : List Exchange}

theorem script_eq (config : Config) (guest : Guest) (block : Block) :
    script config guest block = [.control guest .unprotectCode, .control guest .signalOnExit,
      .mapRegion guest block config.heapAddress,
      .mapGuest guest (EntryHook.pageOf config.entryAddress) pageSize,
      .readWord config.entryAddress, .readWord (config.entryAddress + 4),
      .writeWord config.entryAddress branchToNextWord,
      .writeWord (config.entryAddress + 4) config.trampoline,
      .flush, .unmapGuest (EntryHook.pageOf config.entryAddress) pageSize] := by
  rw [script, EntryHook.pageOf_eq]
  rfl

theorem Course.fulfils {saved : SavedEntry} (h : Course config guest block calls (.ok saved)) :
    Fulfils (script config guest block) calls := by
  rw [script_eq]
  cases h with
  | hooked words =>
    constructor
    · rfl
    · simp [controlCalls, EntryHook.mapPage, EntryHook.readCalls, EntryHook.writeCalls,
        EntryHook.unmapPage, Refused]

theorem fulfils_controlCalls (guest : Guest) :
    Fulfils [.control guest .unprotectCode, .control guest .signalOnExit] (controlCalls guest) := by
  constructor
  · rfl
  · simp [controlCalls, Refused]

/-- An attempt to attach that fails stops at the call that was refused. -/
theorem Course.halts {cause : ResourceError} (h : Course config guest block calls (.error cause)) :
    ∃ made, Halts (script config guest block) made ∧
      calls = made ++ undoCalls ⟨.unmapRegion guest block config.heapAddress, ()⟩ made := by
  have hControl := fulfils_controlCalls guest
  rw [script_eq]
  cases h with
  | unprotectRefused code =>
    have hRefused : Refused ⟨.control guest .unprotectCode, .error code⟩ := trivial
    exact ⟨_, fulfils_nil.halts hRefused _, rfl⟩
  | signalRefused code =>
    have hFirst : Fulfils [.control guest .unprotectCode] [⟨.control guest .unprotectCode, .ok ()⟩] :=
      ⟨rfl, List.forall_mem_singleton.mpr id⟩
    have hRefused : Refused ⟨.control guest .signalOnExit, .error code⟩ := trivial
    exact ⟨_, hFirst.halts hRefused _, rfl⟩
  | mappingRefused code =>
    have hRefused : Refused ⟨.mapRegion guest block config.heapAddress, .error code⟩ := trivial
    exact ⟨_, hControl.halts hRefused _, rfl⟩
  | pageRefused code =>
    have hMap : Fulfils [.mapRegion guest block config.heapAddress]
        [⟨.mapRegion guest block config.heapAddress, .ok ()⟩] :=
      ⟨rfl, List.forall_mem_singleton.mpr id⟩
    have hRefused : Refused (EntryHook.mapPage guest config.entryAddress (.error code)) := trivial
    exact ⟨_, (hControl.append hMap).halts hRefused _, rfl⟩

/-- Words are written behind the mapping of the block. -/
theorem Course.map_mem_of_write {outcome : Except ResourceError SavedEntry}
    (h : Course config guest block calls outcome) {before later : List Exchange}
    {address value : UInt32} (hWrite : calls = before ++ ⟨.writeWord address value, ()⟩ :: later) :
    ⟨.mapRegion guest block config.heapAddress, .ok ()⟩ ∈ before := by
  have hMember : (⟨.writeWord address value, ()⟩ : Exchange) ∈ calls := by simp [hWrite]
  cases h with
  | hooked words =>
    simp only [List.append_assoc] at hWrite
    rw [← List.append_assoc] at hWrite
    obtain ⟨inner, rfl, _⟩ := exists_append_of_notMem (by simp [controlCalls, EntryHook.mapPage]) hWrite
    simp
  | _ => simp [controlCalls, EntryHook.mapPage] at hMember

end Attach

namespace Loader

variable {l l' : Loader} {guest : Guest} {homebrew : Bool} {calls : List Exchange}
  {events : List Event}

/-- The calls of a load up to the search for its plugin. -/
def opening (guest : Guest) (search : List Exchange) : List HostCall :=
  .titleOf guest :: search.map (·.1)

def taking (held : Option Region) (size : UInt32) : List HostCall :=
  (held.toList.map fun region => .free region.toBlock) ++ [.allocate size]

/-- The calls of a load, if none is refused and nothing that is found is unusable. -/
def script (l : Loader) (guest : Guest) (search : List Exchange) (size : UInt32) (block : Block) :
    List HostCall :=
  opening guest search ++ taking l.held size ++ Attach.script l.config guest block

/-- Where the calls of a failed load end: with the one that was refused, or behind the search, or behind
the allocation. -/
def StopsAt (l : Loader) (guest : Guest) (searched : List Exchange) (size : UInt32) (block : Block)
    (made : List Exchange) : LoadError → Prop
  | .resource _ => Halts (l.script guest searched size block) made
  | .image _ => Fulfils (opening guest searched ++ taking l.held size) made
  | _ => Fulfils (opening guest searched) made

/-- The title was refused, or the search for its plugin was run to its end. -/
def Searches (l : Loader) (guest : Guest) (searched made : List Exchange) : Prop :=
  (∃ code, made = [⟨.titleOf guest, .error code⟩]) ∨
    ∃ title events found, ⟨.titleOf guest, .ok title⟩ :: searched <+: made ∧
      (∀ x ∈ searched, x.1.IsStorage) ∧ Runs (l.lookup title) searched events (some found)

theorem not_refused_of_isStorage (x : Exchange) (h : x.1.IsStorage) : ¬ Refused x := by
  refine h.of_exchange (P := fun x => ¬ Refused x) ?_ ?_ ?_
  · exact fun _ _ => id
  · exact fun _ _ _ => id
  · exact fun _ _ => id

theorem fulfils_opening {searched : List Exchange} (title : TitleId)
    (h : ∀ x ∈ searched, x.1.IsStorage) :
    Fulfils (opening guest searched) (⟨.titleOf guest, .ok title⟩ :: searched) where
  inOrder := rfl
  granted := List.forall_mem_cons.mpr ⟨id, fun x hx => not_refused_of_isStorage x (h x hx)⟩

theorem fulfils_releaseCalls (held : Option Region) :
    Fulfils (held.toList.map fun region => .free region.toBlock) (Reservation.releaseCalls held) := by
  cases held with
  | none => exact fulfils_nil
  | some region => exact ⟨rfl, List.forall_mem_singleton.mpr id⟩

theorem Opened.isStorage (o : Opened l) : ∀ x ∈ o.lookupCalls, x.1.IsStorage :=
  (l.lookup_within o.title o.found).2

theorem Opened.fulfils (o : Opened l) :
    Fulfils (opening guest o.lookupCalls) (o.calls guest) :=
  fulfils_opening o.title o.isStorage

theorem Opened.searches (o : Opened l) {made : List Exchange} (h : o.calls guest <+: made) :
    l.Searches guest o.lookupCalls made :=
  .inr ⟨o.title, o.lookupEvents, _, h, o.isStorage, o.found⟩

theorem Admitted.opened_calls (a : Admitted l homebrew) (rest : List Exchange) :
    a.toOpened.calls guest <+: a.toOpened.calls guest ++ Reservation.releaseCalls l.held ++ rest := by
  rw [List.append_assoc]
  exact List.prefix_append _ _

theorem Admitted.halts (a : Admitted l homebrew) (code : ResultCode) (block : Block) :
    Halts (l.script guest a.lookupCalls a.size block)
      (a.toOpened.calls guest ++ Reservation.releaseCalls l.held ++
        [⟨.allocate a.size, .error code⟩]) := by
  have hOpening : Fulfils (opening guest a.lookupCalls) (a.toOpened.calls guest) := a.toOpened.fulfils
  have hRefused : Refused ⟨.allocate a.size, .error code⟩ := trivial
  have hHalts := (hOpening.append (fulfils_releaseCalls l.held)).halts hRefused
    (Attach.script l.config guest block)
  simpa [script, taking] using hHalts

theorem Granted.fulfils (g : Granted l homebrew) :
    Fulfils (opening guest g.lookupCalls ++ taking l.held g.toAdmitted.size) (g.calls guest) := by
  have hAllocate : Fulfils [.allocate g.toAdmitted.size] [⟨.allocate g.toAdmitted.size, .ok g.block⟩] :=
    ⟨rfl, List.forall_mem_singleton.mpr id⟩
  rw [Granted.calls, List.append_assoc]
  exact g.toOpened.fulfils.append ((fulfils_releaseCalls l.held).append hAllocate)

/-- The calls of a load that fails, before the block is given back, stop where its cause says. -/
theorem Course.stopsAt {cause : LoadError}
    (h : Course l guest homebrew calls events (.error cause) l') :
    ∃ made searched size block, l.Searches guest searched made ∧
      l.StopsAt guest searched size block made cause ∧
      calls = made ++ Attach.undoCalls ⟨.unmapRegion guest block l.config.heapAddress, ()⟩ made := by
  -- Where nothing was refused there is nothing to undo, whatever block is named.
  have hGranted {script : List HostCall} {made : List Exchange} (h : Fulfils script made) :
      made = made ++
        Attach.undoCalls ⟨.unmapRegion guest default l.config.heapAddress, ()⟩ made := by
    rw [Attach.undoCalls_of_granted h.granted, List.append_nil]
  cases h with
  | unidentified code =>
    have hRefused : Refused ⟨.titleOf guest, .error code⟩ := trivial
    exact ⟨_, [], 0, default, .inl ⟨code, rfl⟩, fulfils_nil.halts hRefused _, rfl⟩
  | @unopened title _ searched _ hLookup =>
    have hStorage := (l.lookup_within title hLookup).2
    have hOpening : Fulfils (opening guest searched) _ := fulfils_opening title hStorage
    refine ⟨_, searched, 0, default, ?_, hOpening, hGranted hOpening⟩
    exact .inr ⟨title, _, _, List.prefix_rfl, hStorage, hLookup⟩
  | unreadable o hParse =>
    exact ⟨_, _, 0, default, o.searches List.prefix_rfl, o.fulfils, hGranted o.fulfils⟩
  | refused o hParse hAdmission =>
    exact ⟨_, _, 0, default, o.searches List.prefix_rfl, o.fulfils, hGranted o.fulfils⟩
  | unreserved a code =>
    refine ⟨_, _, a.size, default, a.toOpened.searches (a.opened_calls _), a.halts code default, ?_⟩
    simp [Attach.undoCalls]
  | unstaged g hStage =>
    exact ⟨_, _, g.toAdmitted.size, default, g.toOpened.searches (g.toAdmitted.opened_calls _),
      g.fulfils, hGranted g.fulfils⟩
  | unattached r hAttach =>
    obtain ⟨made, hHalts, rfl⟩ := hAttach.halts
    refine ⟨r.calls guest ++ made, r.lookupCalls, r.toAdmitted.size, r.region.toBlock, ?_,
      r.fulfils.append_halts hHalts, ?_⟩
    · exact r.toOpened.searches ((r.toAdmitted.opened_calls _).trans (List.prefix_append _ _))
    · rw [Attach.undoCalls_append hHalts.refused, List.append_assoc]

theorem Course.fulfils (h : Course l guest homebrew calls events (.ok ()) l') :
    ∃ searched size block, l.Searches guest searched calls ∧
      Fulfils (l.script guest searched size block) calls ∧
      ∀ before address value later, calls = before ++ ⟨.writeWord address value, ()⟩ :: later →
        ⟨.mapRegion guest block l.config.heapAddress, .ok ()⟩ ∈ before := by
  cases h with
  | attached r hAttach =>
    refine ⟨_, _, r.region.toBlock, ?_, r.fulfils.append hAttach.fulfils, ?_⟩
    · exact r.toOpened.searches ((r.toAdmitted.opened_calls _).trans (List.prefix_append _ _))
    · intro before address value later hWrite
      have hFirst : (⟨.writeWord address value, ()⟩ : Exchange) ∉ r.calls guest := by
        intro hMember
        exact r.toAdmitted.quiet_calls _ _ hMember
      obtain ⟨inner, rfl, hInner⟩ := exists_append_of_notMem hFirst hWrite
      exact List.mem_append_right _ (hAttach.map_mem_of_write hInner)

/-! ## What precedes a call -/

/-- What must have gone well before a call. A guest is not touched before its plugin was found, read,
admitted and staged in a block that was granted, and that block is the one it gets. -/
def Preceded (l : Loader) (guest : Guest) (homebrew : Bool) (calls : List Exchange) : HostCall → Prop
  | .titleOf _ => True
  | .openDirectory _ => True
  | .readDirectory _ _ => True
  | .openFile _ => True
  | .free _ => True
  | .allocate size => ∃ a : Admitted l homebrew, a.toOpened.calls guest <+: calls ∧
      size = l.config.tierSizes[a.container.manifest.tier.index]
  | .mapRegion _ block _ => ∃ f : Filled l homebrew, f.calls guest <+: calls ∧
      block.handle = f.block.handle
  | _ => ∃ f : Filled l homebrew, f.calls guest <+: calls

theorem preceded_of_isStorage {c : HostCall} (h : c.IsStorage) : l.Preceded guest homebrew calls c := by
  cases c with
  | openDirectory path => trivial
  | readDirectory directory max => trivial
  | openFile path => trivial
  | _ => exact h.elim

theorem Preceded.mono {c : HostCall} (h : l.Preceded guest homebrew calls c) (rest : List Exchange) :
    l.Preceded guest homebrew (calls ++ rest) c := by
  cases c with
  | allocate size =>
    obtain ⟨a, hCalls, hSize⟩ := h
    exact ⟨a, hCalls.trans (List.prefix_append _ _), hSize⟩
  | titleOf | openDirectory | readDirectory | openFile | free => trivial
  | mapRegion _ block =>
    obtain ⟨f, hCalls, hBlock⟩ := h
    exact ⟨f, hCalls.trans (List.prefix_append _ _), hBlock⟩
  | _ =>
    obtain ⟨f, hCalls⟩ := h
    exact ⟨f, hCalls.trans (List.prefix_append _ _)⟩

theorem Admitted.preceded (a : Admitted l homebrew) (answer : Except ResultCode Block) :
    ∀ x ∈ a.toOpened.calls guest ++ Reservation.releaseCalls l.held ++ [⟨.allocate a.size, answer⟩],
      l.Preceded guest homebrew (a.toOpened.calls guest ++ Reservation.releaseCalls l.held ++
        [⟨.allocate a.size, answer⟩]) x.1 :=
  a.forall_mem_calls trivial (fun _ hx => preceded_of_isStorage hx) (fun _ => trivial)
    ⟨a, a.opened_calls _, rfl⟩

theorem preceded_of_attach {config : Config} {block : Block} {attached : List Exchange}
    {outcome : Except ResourceError SavedEntry}
    (h : Attach.Course config guest block attached outcome)
    (f : Filled l homebrew) (hCalls : f.calls guest <+: calls)
    (hBlock : block.handle = f.block.handle) :
    ∀ x ∈ attached, l.Preceded guest homebrew calls x.1 := by
  have hFilled : ∃ f : Filled l homebrew, f.calls guest <+: calls := ⟨f, hCalls⟩
  have hMapped : ∃ f : Filled l homebrew, f.calls guest <+: calls ∧ block.handle = f.block.handle :=
    ⟨f, hCalls, hBlock⟩
  cases h <;> simp [Attach.controlCalls, EntryHook.mapPage, EntryHook.readCalls,
    EntryHook.writeCalls, EntryHook.unmapPage, Preceded, hFilled, hMapped]

theorem Ready.preceded (r : Ready l homebrew) {attached : List Exchange}
    {outcome : Except ResourceError SavedEntry}
    (h : Attach.Course l.config guest r.region.toBlock attached outcome) :
    ∀ x ∈ r.calls guest ++ attached, l.Preceded guest homebrew (r.calls guest ++ attached) x.1 := by
  refine List.forall_mem_append.mpr ⟨?_, ?_⟩
  · intro x hx
    exact (r.toAdmitted.preceded _ x hx).mono attached
  · exact preceded_of_attach h r.toFilled (List.prefix_append _ _) rfl

theorem Course.preceded {outcome : Except LoadError Unit}
    (h : Course l guest homebrew calls events outcome l') :
    ∀ x ∈ calls, l.Preceded guest homebrew calls x.1 := by
  cases h with
  | unidentified code => exact List.forall_mem_singleton.mpr trivial
  | unopened hLookup =>
    exact forall_mem_search hLookup trivial fun _ hx => preceded_of_isStorage hx
  | unreadable o hParse =>
    exact o.forall_mem_calls trivial fun _ hx => preceded_of_isStorage hx
  | refused o hParse hAdmission =>
    exact o.forall_mem_calls trivial fun _ hx => preceded_of_isStorage hx
  | unreserved a code => exact a.preceded _
  | unstaged g hStage => exact g.toAdmitted.preceded _
  | unattached r hAttach => exact r.preceded hAttach
  | attached r hAttach => exact r.preceded hAttach

/-! ## The whole load -/

/-- How the calls of an attempt to load are laid out. A load that fails takes the region back where it was
mapped, and frees the block that is out. -/
structure Ordered (l : Loader) (guest : Guest) (homebrew : Bool) (answer : Except LoadError Unit)
    (calls made searched : List Exchange) (size : UInt32) (block : Block) : Prop where
  searches : l.Searches guest searched made
  succeeded : answer = .ok () → Fulfils (l.script guest searched size block) made ∧ calls = made
  failed : ∀ cause, answer = .error cause → l.StopsAt guest searched size block made cause ∧
    ∃ (undo : List Exchange) (held : Option Region),
      undo = Attach.undoCalls ⟨.unmapRegion guest block l.config.heapAddress, ()⟩ made ∧
      (made ++ undo).foldl BlockLedger.record l.heldHandle.toList =
        (held.map (·.handle)).toList ∧
      calls = made ++ undo ++ Reservation.releaseCalls held
  preceded : ∀ x ∈ calls, l.refreshed.Preceded guest homebrew calls x.1
  mapped : ∀ before address value later,
    calls = before ++ ⟨.writeWord address value, ()⟩ :: later →
      ⟨.mapRegion guest block l.config.heapAddress, .ok ()⟩ ∈ before

/-- In every attempt to load the calls come in one order and stop at the first that is refused, and behind
them stands nothing but what cleans up. -/
theorem tryLoad_ordered {answer : Except LoadError Unit}
    (h : Runs ((tryLoad guest homebrew).run l) calls events (some (answer, l'))) :
    ∃ made searched size block, Ordered l guest homebrew answer calls made searched size block := by
  cases attempt_of_runs h with
  | succeeded hCourse =>
    obtain ⟨searched, size, block, hSearches, hFulfils, hMapped⟩ := hCourse.fulfils
    exact ⟨calls, searched, size, block, hSearches, fun _ => ⟨hFulfils, rfl⟩, nofun,
      hCourse.preceded, hMapped⟩
  | @failed inner _ cause after hCourse =>
    obtain ⟨made, searched, size, block, hSearches, hStops, hCalls⟩ := hCourse.stopsAt
    refine ⟨made, searched, size, block, hSearches, nofun, ?_, ?_, ?_⟩
    · rintro _ ⟨rfl⟩
      refine ⟨hStops, _, after.held, rfl, ?_, ?_⟩
      · exact hCalls ▸ hCourse.orderly.foldl_record
      · exact congrArg (· ++ Reservation.releaseCalls after.held) hCalls
    · refine List.forall_mem_append.mpr ⟨?_, ?_⟩
      · intro x hx
        exact (hCourse.preceded x hx).mono _
      · exact Reservation.forall_mem_releaseCalls after.held fun _ => trivial
    · intro before address value later hWrite
      refine absurd ?_ (hCourse.undone.writeWord_notMem address value)
      rw [hWrite]
      exact List.mem_append_right _ List.mem_cons_self

theorem small_plugin_ordered :
    ∃ calls events l' searched size block,
      Runs ((tryLoad ⟨1⟩ false).run (.new tightConfig)) calls events (some (.ok (), l')) ∧
      Fulfils ((Loader.new tightConfig).script ⟨1⟩ searched size block) calls := by
  obtain ⟨calls, events, l', hRuns⟩ := exists_runs_tryLoad_ok
  obtain ⟨made, searched, size, block, hOrdered⟩ := tryLoad_ordered hRuns
  obtain ⟨hFulfils, rfl⟩ := hOrdered.succeeded rfl
  exact ⟨_, events, l', searched, size, block, hRuns, hFulfils⟩

end Loader
end GuestPlugin
