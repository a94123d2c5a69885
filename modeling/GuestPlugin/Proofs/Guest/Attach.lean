import GuestPlugin.Guest.Attach
import GuestPlugin.Proofs.Guest.EntryHook

/-! # How attaching can go

There are four calls that may be refused, and the ways to end are one for each of them and the one in
which none is. All calls are listed, so what is left behind can be read off.
-/

set_option autoImplicit false

namespace GuestPlugin.Attach

open Program

def controlCalls (guest : Guest) : List Exchange :=
  [⟨.control guest .unprotectCode, .ok ()⟩, ⟨.control guest .signalOnExit, .ok ()⟩]

/-- The calls of an attempt to attach a block, and what it came to. -/
inductive Course (config : Config) (guest : Guest) (block : Block) :
    List Exchange → Except ResourceError SavedEntry → Prop where
  | unprotectRefused (code : ResultCode) :
      Course config guest block [⟨.control guest .unprotectCode, .error code⟩]
        (.error (.mappingFailed code))
  | signalRefused (code : ResultCode) :
      Course config guest block
        [⟨.control guest .unprotectCode, .ok ()⟩, ⟨.control guest .signalOnExit, .error code⟩]
        (.error (.mappingFailed code))
  | mappingRefused (code : ResultCode) :
      Course config guest block
        (controlCalls guest ++ [⟨.mapRegion guest block config.heapAddress, .error code⟩])
        (.error (.mappingFailed code))
  | pageRefused (code : ResultCode) :
      Course config guest block
        (controlCalls guest ++ [⟨.mapRegion guest block config.heapAddress, .ok ()⟩,
          EntryHook.mapPage guest config.entryAddress (.error code),
          ⟨.unmapRegion guest block config.heapAddress, ()⟩])
        (.error (.entryMappingFailed code))
  | hooked (words : EntryWords) :
      Course config guest block
        (controlCalls guest ++ [⟨.mapRegion guest block config.heapAddress, .ok ()⟩,
          EntryHook.mapPage guest config.entryAddress (.ok ())] ++
          EntryHook.readCalls config.entryAddress words ++
          EntryHook.writeCalls config.entryAddress ⟨branchToNextWord, config.trampoline⟩ ++
          [EntryHook.unmapPage config.entryAddress])
        (.ok ⟨config.entryAddress, words⟩)

theorem runs_mapAndHook {config : Config} {guest : Guest} {block : Block} {calls : List Exchange}
    {events : List Event} {result : Option (Except ResourceError SavedEntry)}
    (h : Runs (mapAndHook config guest block) calls events result) :
    events = [] ∧ ∃ outcome, result = some outcome ∧ Course config guest block calls outcome := by
  obtain ⟨answer, _, rfl, hUnprotect⟩ := runs_call_iff.mp h
  rcases answer with code | _
  · obtain ⟨rfl, rfl, rfl⟩ := runs_done_iff.mp hUnprotect
    exact ⟨rfl, _, rfl, .unprotectRefused code⟩
  obtain ⟨answer, _, rfl, hSignal⟩ := runs_call_iff.mp hUnprotect
  rcases answer with code | _
  · obtain ⟨rfl, rfl, rfl⟩ := runs_done_iff.mp hSignal
    exact ⟨rfl, _, rfl, .signalRefused code⟩
  obtain ⟨answer, _, rfl, hMap⟩ := runs_call_iff.mp hSignal
  rcases answer with code | _
  · obtain ⟨rfl, rfl, rfl⟩ := runs_done_iff.mp hMap
    exact ⟨rfl, _, rfl, .mappingRefused code⟩
  obtain ⟨_, _, _, _, _, hInstall, hRest, rfl, rfl⟩ :=
    (EntryHook.install_total guest config.entryAddress config.trampoline).runs_bind_iff.mp hMap
  obtain ⟨rfl, outcome, hOutcome, hInstalled⟩ := EntryHook.runs_install hInstall
  cases hOutcome
  cases hInstalled with
  | refused code =>
    obtain ⟨_, _, rfl, hEnd⟩ := runs_call_iff.mp hRest
    obtain ⟨rfl, rfl, rfl⟩ := runs_done_iff.mp hEnd
    exact ⟨rfl, _, rfl, .pageRefused code⟩
  | hooked words =>
    obtain ⟨rfl, rfl, rfl⟩ := runs_pure_iff.mp hRest
    rw [List.append_nil]
    exact ⟨rfl, _, rfl, .hooked words⟩

/-- Nothing but the block is mapped, and only into this guest. -/
theorem Course.eq_of_mapRegion_mem {config : Config} {guest mapped : Guest} {block shown : Block}
    {calls : List Exchange} {outcome : Except ResourceError SavedEntry} {address : UInt32}
    {answer : Except ResultCode Unit} (h : Course config guest block calls outcome)
    (hMap : ⟨.mapRegion mapped shown address, answer⟩ ∈ calls) :
    mapped = guest ∧ shown = block ∧ address = config.heapAddress := by
  have hCall : HostCall.mapRegion mapped shown address ∈ calls.map (·.1) :=
    List.mem_map_of_mem hMap
  cases h <;> simp [controlCalls, EntryHook.mapPage, EntryHook.readCalls, EntryHook.writeCalls,
    EntryHook.unmapPage] at hCall <;> exact hCall

theorem mapAndHook_total (config : Config) (guest : Guest) (block : Block) :
    Total (mapAndHook config guest block) := by
  intro calls events result h
  obtain ⟨_, _, rfl, _⟩ := runs_mapAndHook h
  rfl

theorem runs_attach {config : Config} {guest : Guest} {region : Region} {block : ControlBlock}
    {ready : Bytes region.size.toNat} (hReady : block.prepare? region.memory = some ready)
    {calls : List Exchange} {events : List Event}
    {result : Option (Except ResourceError SavedEntry × Region)}
    (h : Runs (attach config guest region block) calls events result) :
    events = [] ∧ ∃ outcome, result = some (outcome, region.withMemory ready) ∧
      Course config guest (region.withMemory ready).toBlock calls outcome := by
  rw [attach, hReady] at h
  obtain ⟨_, _, _, _, _, hMap, hEnd, rfl, rfl⟩ :=
    (mapAndHook_total config guest (region.withMemory ready).toBlock).runs_bind_iff.mp h
  obtain ⟨rfl, outcome, hOutcome, hCourse⟩ := runs_mapAndHook hMap
  obtain rfl := Option.some.inj hOutcome
  obtain ⟨rfl, rfl, rfl⟩ := runs_pure_iff.mp hEnd
  refine ⟨rfl, _, rfl, ?_⟩
  rwa [List.append_nil]

end GuestPlugin.Attach
