import GuestPlugin.Proofs.Loader.Operation
import GuestPlugin.Proofs.Region.StagedBytes
import GuestPlugin.Proofs.Region.Transcription

/-! # What a guest finds in its region

A region that is mapped is the control block, the parts of the executable as they stand in the file that
was opened, and zeros up to its end. The bytes of the block that the pool granted do not occur in this
description, so nothing of them is left. What is mapped is also what the loader keeps.
-/

set_option autoImplicit false

namespace GuestPlugin

open Program

/-- A control block that says what a load found out and what it was configured with. -/
structure ControlBlock.Describes (b : ControlBlock) (config : Config) (version : UInt32)
    (e : Executable) (regionSize : UInt32) (isDefault : Bool) (words : ConfigWords) : Prop where
  version : b.version = version
  heapAddress : b.heapAddress = config.heapAddress
  imageSize : IsLeast {m | 0x1000 ∣ m ∧ 0xA0 + e.code.size.toNat + e.rodata.size.toNat +
    e.data.size.toNat + e.bssSize.toNat ≤ m} b.imageSize.toNat
  heapSize : b.imageSize.toNat + b.heapSize.toNat = regionSize.toNat
  isDefault : b.isDefault = isDefault
  eventChannel : b.eventChannel = config.eventChannel
  replyChannel : b.replyChannel = config.replyChannel
  config : b.config = words

/-- What a region holds that is mapped, byte for byte: a control block, the parts of an executable as they
stand in its file, each of them whole, and zeros. -/
structure Region.Holds (region : Region) (b : ControlBlock) (e : Executable) (file : ByteArray) :
    Prop where
  read : ControlBlock.read? region.memory = some b
  code : (e.code.bytesIn file).length = e.code.size.toNat
  rodata : (e.rodata.bytesIn file).length = e.rodata.size.toNat
  data : (e.data.bytesIn file).length = e.data.size.toNat
  ends : 0xA0 + e.code.size.toNat + e.rodata.size.toNat + e.data.size.toNat ≤ region.size.toNat
  bytes : region.memory.toList = "PLGH".toUTF8.data.toList ++ LittleEndian.encodeWords
      ([b.version, b.heapAddress, b.heapSize, b.imageSize, if b.isDefault then 1 else 0,
        b.eventChannel, b.replyChannel] ++ b.config.toList) ++
    (e.code.bytesIn file ++ e.rodata.bytesIn file ++ e.data.bytesIn file) ++
    List.replicate (region.size.toNat -
      (0xA0 + e.code.size.toNat + e.rodata.size.toNat + e.data.size.toNat)) 0

theorem Attach.Course.maps {config : Config} {guest : Guest} {block : Block}
    {calls : List Exchange} {saved : SavedEntry}
    (h : Attach.Course config guest block calls (.ok saved)) :
    ⟨.mapRegion guest block config.heapAddress, .ok ()⟩ ∈ calls ∧
      ∀ mapped shown address answer,
        ⟨.mapRegion mapped shown address, answer⟩ ∈ calls → shown = block := by
  refine ⟨?_, fun _ _ _ _ hMap => (h.eq_of_mapRegion_mem hMap).2.1⟩
  cases h with
  | hooked words => simp

namespace Loader

variable {l : Loader} {guest : Guest} {homebrew : Bool}

theorem forcedFor_eq_filter (l : Loader) (title : TitleId) :
    l.forcedFor title = l.context.forced.filter (·.appliesTo title) := by
  rw [forcedFor]
  fun_cases Context.takeForced title l.context.forced <;> simp_all [Option.filter]

theorem Filled.describes (f : Filled l homebrew) :
    f.controlBlock.Describes l.config f.container.version f.container.executable f.block.size
      f.plugin.isDefault (l.wordsFor f.title) := by
  have hFits := f.isStaged.fits
  have hImage : f.controlBlock.imageSize = f.placement.imageSize := rfl
  have hHeap : f.controlBlock.heapSize = f.placement.heapSize := rfl
  refine ⟨rfl, rfl, ?_, ?_, rfl, rfl, rfl, rfl⟩
  · rw [hImage, hFits.image, ← Placement.partsStart_add_extent]
    exact Placement.imageSizeOf_isLeast f.container.executable
  · have hBelow := hFits.image_le
    rw [hImage, hHeap, hFits.toNat_heapSize]
    omega

theorem Ready.toList_memory (r : Ready l homebrew) :
    r.region.memory.toList = r.controlBlock.encode ++
      r.container.executable.image r.plugin.stream.content ++
      List.replicate (r.region.size.toNat - (ControlBlock.size +
        (r.container.executable.image r.plugin.stream.content).length)) 0 := by
  obtain ⟨ready, hReady, hBytes⟩ := r.exists_ready
  have hSame : r.controlBlock.prepare? r.memory = some r.ready := r.prepared
  rw [hSame] at hReady
  cases hReady
  rw [← Container.content_of_parse r.parsed]
  exact r.isStaged.ready rfl hBytes

theorem Ready.read?_memory (r : Ready l homebrew) :
    ControlBlock.read? r.region.memory = some r.controlBlock := by
  have hBytes := r.toList_memory
  rw [List.append_assoc] at hBytes
  exact ControlBlock.read?_of_encode rfl hBytes

theorem Ready.holds (r : Ready l homebrew) :
    r.region.Holds r.controlBlock r.container.executable r.plugin.stream.content := by
  have hBytes := r.toList_memory
  rw [← Container.content_of_parse r.parsed] at hBytes ⊢
  obtain ⟨hCode, hRodata, hData⟩ := r.isStaged.length_bytesIn
  have hParts := r.isStaged.fits.parts_le
  have hInside := r.isStaged.fits.image_le
  have hSum := Placement.partsStart_add_extent r.container.executable
  refine ⟨r.read?_memory, hCode, hRodata, hData, ?_, ?_⟩
  · change _ ≤ r.block.size.toNat
    omega
  · rw [hBytes, r.isStaged.length_image, ← Nat.add_assoc, ← Nat.add_assoc, Executable.image_eq,
      ControlBlock.encode_of_magic rfl]

theorem Ready.mapRegion_notMem (r : Ready l homebrew) (mapped : Guest) (block : Block)
    (address : UInt32) (answer : Except ResultCode Unit) :
    (⟨.mapRegion mapped block address, answer⟩ : Exchange) ∉ r.calls guest := by
  intro hMap
  have hOther : ∀ x ∈ r.calls guest, x ≠ ⟨.mapRegion mapped block address, answer⟩ := by
    refine r.toAdmitted.forall_mem_calls nofun ?_ (fun _ => nofun) nofun
    rintro x hStorage rfl
    exact hStorage
  exact hOther _ hMap rfl

/-- An attempt to load that succeeds has mapped one region, and holds it: it begins with the control
block of this load, then come the parts of the executable of the plugin that was opened, and everything
behind them is zero. -/
theorem tryLoad_ok_region {l' : Loader} {calls : List Exchange} {events : List Event}
    (h : Runs ((tryLoad guest homebrew).run l) calls events (some (.ok (), l'))) :
    ∃ (title : TitleId) (plugin : OpenedPlugin) (lookupCalls : List Exchange)
      (lookupEvents : List Event) (container : Container) (after : Stream) (block : Block)
      (region : Region) (b : ControlBlock),
      (∃ later, calls = ⟨.titleOf guest, .ok title⟩ :: (lookupCalls ++ later)) ∧
      Runs (l.lookup title) lookupCalls lookupEvents (some (.ok plugin)) ∧
      Container.parse plugin.stream = (.ok container, after) ∧
      ⟨.allocate l.config.tierSizes[container.manifest.tier.index], .ok block⟩ ∈ calls ∧
      region.handle = block.handle ∧ region.size = block.size ∧
      ⟨.mapRegion guest region.toBlock l.config.heapAddress, .ok ()⟩ ∈ calls ∧
      (∀ mapped shown address answer,
        ⟨.mapRegion mapped shown address, answer⟩ ∈ calls → shown = region.toBlock) ∧
      l'.held = some region ∧
      region.Holds b (.declaredIn plugin.stream.content) plugin.stream.content ∧
      b.Describes l.config container.version (.declaredIn plugin.stream.content) region.size
        plugin.isDefault
        ((l.context.forced.filter (·.appliesTo title)).elim (Vector.replicate 32 0) (·.words)) := by
  cases attempt_of_runs h with
  | succeeded hCourse =>
    cases hCourse with
    | attached r hAttach =>
      obtain ⟨hMap, hOnly⟩ := hAttach.maps
      have hHolds := r.holds
      have hDescribes := r.describes
      rw [Container.executable_of_parse r.parsed] at hHolds hDescribes
      rw [wordsFor, forcedFor_eq_filter] at hDescribes
      refine ⟨r.title, r.plugin, r.lookupCalls, r.lookupEvents, r.container, r.stream, r.block,
        r.region, r.controlBlock, ?_, r.found, r.parsed, ?_, rfl, rfl,
        List.mem_append_right _ hMap, ?_, rfl, hHolds, hDescribes⟩
      · simp only [Granted.calls, Opened.calls, List.cons_append, List.append_assoc]
        exact ⟨_, rfl⟩
      · exact List.mem_append_left _ (List.mem_append_right _ List.mem_cons_self)
      · intro mapped shown address answer hMember
        rcases List.mem_append.mp hMember with hBefore | hAttached
        · exact absurd hBefore (r.mapRegion_notMem mapped shown address answer)
        · exact hOnly mapped shown address answer hAttached

theorem small_plugin_region :
    ∃ calls events l' region, ∃ (plugin : OpenedPlugin) (container : Container) (b : ControlBlock),
      Runs ((tryLoad ⟨1⟩ false).run (.new tightConfig)) calls events (some (.ok (), l')) ∧
      ⟨.mapRegion ⟨1⟩ region.toBlock tightConfig.heapAddress, .ok ()⟩ ∈ calls ∧
      l'.held = some region ∧
      region.Holds b (.declaredIn plugin.stream.content) plugin.stream.content ∧
      b.Describes tightConfig container.version (.declaredIn plugin.stream.content) region.size
        plugin.isDefault (Vector.replicate 32 0) := by
  obtain ⟨calls, events, l', hRuns⟩ := exists_runs_tryLoad_ok
  obtain ⟨title, plugin, _, _, container, _, _, region, b, _, _, _, _, _, _, hMap, _, hHeld, hHolds,
    hDescribes⟩ := tryLoad_ok_region hRuns
  exact ⟨calls, events, l', region, plugin, container, b, hRuns, hMap, hHeld, hHolds, hDescribes⟩

end Loader
end GuestPlugin
