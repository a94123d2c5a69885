import GuestPlugin.Proofs.Guest.Attach
import GuestPlugin.Proofs.Loader.Stages
import GuestPlugin.Proofs.Lookup
import GuestPlugin.Proofs.Region.ControlBlock

/-! # The course of a load

What a load knows after each stage is a record that extends the one before, together with the calls and
the events up to there and the loader at that moment. A load ends in one of eight ways, one for each
stage that can fail; they are all its runs, whatever loader it starts from and whatever the host answers.
-/

set_option autoImplicit false

namespace GuestPlugin

open Program

/-- The reports of a judgement: only a guest that is not named is reported. -/
def Container.judgeEvents (c : Container) (title : TitleId) (homebrew : Bool) : List Event :=
  match c.admission title homebrew with
  | .error (.notTargeted _ _) => [.titleNotTargeted title c.targets.toList]
  | _ => []

theorem Container.runs_judge {c : Container} {title : TitleId} {homebrew : Bool}
    {calls : List Exchange} {events : List Event} {result : Option (Except AdmissionError Unit)}
    (h : Runs (c.judge title homebrew) calls events result) :
    calls = [] ∧ events = c.judgeEvents title homebrew ∧
      result = some (c.admission title homebrew) := by
  rw [judge] at h
  rw [judgeEvents]
  generalize c.admission title homebrew = answer at h ⊢
  rcases answer with (_ | _ | ⟨name, author⟩) | _
  · exact runs_pure_iff.mp h
  · exact runs_pure_iff.mp h
  · obtain ⟨_, rfl, hEnd⟩ := runs_report_bind_iff.mp h
    obtain ⟨rfl, rfl, rfl⟩ := runs_pure_iff.mp hEnd
    exact ⟨rfl, rfl, rfl⟩
  · exact runs_pure_iff.mp h

theorem Container.judgeEvents_of_admitted {c : Container} {title : TitleId} {homebrew : Bool}
    (h : c.admission title homebrew = .ok ()) : c.judgeEvents title homebrew = [] := by
  rw [judgeEvents, h]

namespace Loader

theorem lookup_within (l : Loader) (title : TitleId) :
    Within HostCall.IsStorage (l.lookup title) := by
  unfold lookup
  split
  · exact Lookup.openForced_within _
  · exact Lookup.openPlugin_within _ _

variable (l : Loader) (guest : Guest) (homebrew : Bool)

/-- A load that has the file of a plugin open. -/
structure Opened where
  title : TitleId
  plugin : OpenedPlugin
  lookupCalls : List Exchange
  lookupEvents : List Event
  found : Runs (l.lookup title) lookupCalls lookupEvents (some (.ok plugin))

structure Admitted extends Opened l where
  container : Container
  stream : Stream
  parsed : Container.parse plugin.stream = (.ok container, stream)
  admitted : container.admission title homebrew = .ok ()

structure Granted extends Admitted l homebrew where
  block : Block

structure Filled extends Granted l homebrew where
  placement : Placement
  memory : Bytes block.size.toNat
  after : Stream
  staged : container.stage block.memory stream = some ⟨.ok placement, memory, after⟩

structure Ready extends Filled l homebrew where
  ready : Bytes block.size.toNat
  prepared : (controlBlock l.config container placement plugin.isDefault
    (l.wordsFor title)).prepare? memory = some ready

variable {l guest homebrew}

namespace Opened

def calls (o : Opened l) (guest : Guest) : List Exchange :=
  ⟨.titleOf guest, .ok o.title⟩ :: o.lookupCalls

def events (o : Opened l) : List Event :=
  .stateChanged l.context.state .resolving ::
    (o.lookupEvents ++ [.stateChanged .resolving .parsing])

def loader (o : Opened l) : Loader := (l.resolving o.title).parsing o.plugin

end Opened

namespace Admitted

def size (a : Admitted l homebrew) : UInt32 := l.config.tierSize a.container.manifest.tier

def loader (a : Admitted l homebrew) : Loader :=
  (a.toOpened.loader.inState .checking).admitting a.container

def events (a : Admitted l homebrew) : List Event :=
  a.toOpened.events ++ [.stateChanged .parsing .checking, .stateChanged .checking .allocating]

end Admitted

section Calls

variable {P : Exchange → Prop}

theorem forall_mem_search {title : TitleId} {searched : List Exchange} {events : List Event}
    {found : Except LookupError OpenedPlugin}
    (h : Runs (l.lookup title) searched events (some found))
    (hTitle : P ⟨.titleOf guest, .ok title⟩) (hStorage : ∀ x, x.1.IsStorage → P x) :
    ∀ x ∈ (⟨.titleOf guest, .ok title⟩ :: searched : List Exchange), P x :=
  List.forall_mem_cons.mpr ⟨hTitle, fun x hx => hStorage x ((l.lookup_within title h).2 x hx)⟩

theorem Opened.forall_mem_calls (o : Opened l) (hTitle : P ⟨.titleOf guest, .ok o.title⟩)
    (hStorage : ∀ x, x.1.IsStorage → P x) : ∀ x ∈ o.calls guest, P x :=
  forall_mem_search o.found hTitle hStorage

theorem Admitted.forall_mem_calls (a : Admitted l homebrew) {answer : Except ResultCode Block}
    (hTitle : P ⟨.titleOf guest, .ok a.title⟩) (hStorage : ∀ x, x.1.IsStorage → P x)
    (hFree : ∀ block, P ⟨.free block, ()⟩) (hAllocate : P ⟨.allocate a.size, answer⟩) :
    ∀ x ∈ a.toOpened.calls guest ++ Reservation.releaseCalls l.held ++
      [⟨.allocate a.size, answer⟩], P x := by
  refine List.forall_mem_append.mpr ⟨List.forall_mem_append.mpr ⟨?_, ?_⟩, ?_⟩
  · exact a.toOpened.forall_mem_calls hTitle hStorage
  · exact Reservation.forall_mem_releaseCalls l.held hFree
  · exact List.forall_mem_singleton.mpr hAllocate

end Calls

namespace Granted

def region (g : Granted l homebrew) : Region := { g.block with tier := g.container.manifest.tier }

def calls (g : Granted l homebrew) (guest : Guest) : List Exchange :=
  g.toOpened.calls guest ++ Reservation.releaseCalls l.held ++
    [⟨.allocate g.toAdmitted.size, .ok g.block⟩]

def events (g : Granted l homebrew) : List Event :=
  g.toAdmitted.events ++ [.stateChanged .allocating .staging]

def loader (g : Granted l homebrew) : Loader :=
  ((g.toAdmitted.loader.inState .allocating).holding (some g.region)).inState .staging

end Granted

namespace Filled

def region (f : Filled l homebrew) : Region := f.toGranted.region.withMemory f.memory

def events (f : Filled l homebrew) : List Event :=
  f.toGranted.events ++
    [.partsLoaded f.placement.imageSize f.placement.heapSize f.container.executable.bssSize,
      .stateChanged .staging .attaching]

def controlBlock (f : Filled l homebrew) : ControlBlock :=
  Loader.controlBlock l.config f.container f.placement f.plugin.isDefault (l.wordsFor f.title)

end Filled

namespace Ready

def region (r : Ready l homebrew) : Region := r.toFilled.region.withMemory r.ready

def loader (r : Ready l homebrew) : Loader :=
  (r.toGranted.loader.inState .attaching).holding (some r.region)

end Ready

variable (l guest homebrew)

/-- The runs of a load: calls, events, answer, and the loader that is left. -/
inductive Course : List Exchange → List Event → Except LoadError Unit → Loader → Prop where
  | unidentified (code : ResultCode) :
      Course [⟨.titleOf guest, .error code⟩] [] (.error (.resource (.unknownGuest code))) l
  | unopened {title : TitleId} {cause : LookupError} {calls : List Exchange} {events : List Event}
      (h : Runs (l.lookup title) calls events (some (.error cause))) :
      Course (⟨.titleOf guest, .ok title⟩ :: calls)
        (.stateChanged l.context.state .resolving :: events) (.error (.lookup cause))
        (l.resolving title)
  | unreadable (o : Opened l) {cause : FormatError} {stream : Stream}
      (h : Container.parse o.plugin.stream = (.error cause, stream)) :
      Course (o.calls guest) o.events (.error (.format cause)) o.loader
  | refused (o : Opened l) {container : Container} {stream : Stream} {cause : AdmissionError}
      (hParse : Container.parse o.plugin.stream = (.ok container, stream))
      (h : container.admission o.title homebrew = .error cause) :
      Course (o.calls guest)
        (o.events ++ .stateChanged .parsing .checking :: container.judgeEvents o.title homebrew)
        (.error (.admission cause)) (o.loader.inState .checking)
  | unreserved (a : Admitted l homebrew) (code : ResultCode) :
      Course
        (a.toOpened.calls guest ++ Reservation.releaseCalls l.held ++
          [⟨.allocate a.size, .error code⟩])
        (a.events ++ [.allocationRefused a.size code])
        (.error (.resource (.allocationRefused a.size)))
        ((a.loader.inState .allocating).holding none)
  | unstaged (g : Granted l homebrew) {cause : ImageError} {memory : Bytes g.block.size.toNat}
      {after : Stream}
      (h : g.container.stage g.block.memory g.stream = some ⟨.error cause, memory, after⟩) :
      Course (g.calls guest) g.events (.error (.image cause))
        (g.loader.holding (some (g.region.withMemory memory)))
  | unattached (r : Ready l homebrew) {calls : List Exchange} {cause : ResourceError}
      (h : Attach.Course l.config guest r.region.toBlock calls (.error cause)) :
      Course (r.calls guest ++ calls) r.events (.error (.resource cause)) r.loader
  | attached (r : Ready l homebrew) {calls : List Exchange} {saved : SavedEntry}
      (h : Attach.Course l.config guest r.region.toBlock calls (.ok saved)) :
      Course (r.calls guest ++ calls)
        (r.events ++ [.pluginAttached r.title r.plugin.path r.container.manifest.title
          r.placement.imageSize r.placement.heapSize])
        (.ok ()) (r.loader.hooking saved)

/-- Whatever a program does after these calls and events, the load takes its course. -/
def Completes (before : List Exchange) (reported : List Event)
    (p : Program (Except LoadError Unit × Loader)) : Prop :=
  ∀ ⦃calls : List Exchange⦄ ⦃events : List Event⦄ ⦃result : Option (Except LoadError Unit × Loader)⦄,
    Runs p calls events result →
      ∃ outcome after, result = some (outcome, after) ∧
        Course l guest homebrew (before ++ calls) (reported ++ events) outcome after

/-- A load from the moment its executable is staged. -/
def finish (title : TitleId) (plugin : OpenedPlugin) (words : ConfigWords) (container : Container)
    (placement : Placement) (region : Region) : LoadStage Unit := do
  let config := (← get).config
  attachTo guest region (controlBlock config container placement plugin.isDefault words)
  Program.report
    (.pluginAttached title plugin.path container.manifest.title placement.imageSize
      placement.heapSize)

/-- A load from the moment its container is admitted. -/
def install (title : TitleId) (plugin : OpenedPlugin) (words : ConfigWords) (container : Container)
    (stream : Stream) : LoadStage Unit := do
  let region ← reserve container.manifest.tier
  let (placement, region) ← stage container region stream
  finish guest title plugin words container placement region

theorem load_eq : load guest homebrew = (do
    let title ← identify guest
    let (plugin, words) ← openPlugin title
    let (container, stream) ← examine plugin title homebrew
    install guest title plugin words container stream) := rfl

variable {l guest homebrew}

theorem Filled.isStaged (f : Filled l homebrew) :
    f.container.IsStaged f.block.memory f.stream.content f.placement f.memory :=
  Container.isStaged_of_stage f.staged

theorem Filled.exists_ready (f : Filled l homebrew) :
    ∃ ready, f.controlBlock.prepare? f.memory = some ready ∧
      ready.toList = Bytes.splice (Bytes.splice f.memory.toList 0 f.controlBlock.encode)
        f.controlBlock.imageSize.toNat
        (List.replicate (f.block.size.toNat - f.controlBlock.imageSize.toNat) 0) := by
  have hFits := f.isStaged.fits
  have hParts := hFits.parts_le
  have hImage := hFits.image_le
  have hStart : Placement.partsStart = ControlBlock.size := rfl
  exact f.controlBlock.prepare?_total f.memory (by omega) hImage

theorem completes_finish (f : Filled l homebrew) :
    Completes l guest homebrew (f.calls guest)
      (f.toGranted.events ++ [.partsLoaded f.placement.imageSize f.placement.heapSize
        f.container.executable.bssSize])
      ((finish guest f.title f.plugin (l.wordsFor f.title) f.container f.placement f.region).run.run
        (f.toGranted.loader.holding (some f.region))) := by
  intro calls events result h
  obtain ⟨ready, hReady, _⟩ := f.exists_ready
  have hRegion : f.controlBlock.prepare? f.region.memory = some ready := hReady
  let r : Ready l homebrew := ⟨f, ready, hReady⟩
  rw [finish, run_get_bind, run_bind, run_attachTo] at h
  obtain ⟨later, rfl, hAttach⟩ := runs_emit_iff.mp h
  rw [bind_assoc] at hAttach
  rcases runs_bind_iff.mp hAttach with ⟨_, _, _, _, _, hFirst, hRest, rfl, rfl⟩ | ⟨rfl, hNone⟩
  · obtain ⟨rfl, outcome, hOutcome, hCourse⟩ := Attach.runs_attach hRegion hFirst
    obtain rfl := Option.some.inj hOutcome
    rw [List.append_assoc]
    rcases outcome with cause | saved
    · obtain ⟨rfl, rfl, rfl⟩ := runs_done_iff.mp hRest
      rw [List.append_nil]
      exact ⟨_, _, rfl, .unattached r hCourse⟩
    · obtain ⟨_, rfl, hReport⟩ := runs_emit_iff.mp hRest
      obtain ⟨rfl, rfl, rfl⟩ := runs_done_iff.mp hReport
      rw [List.append_nil]
      refine ⟨_, _, rfl, ?_⟩
      have hEnd : Course l guest homebrew _ _ _ _ := .attached r hCourse
      rw [Filled.events, List.append_assoc] at hEnd
      exact hEnd
  · obtain ⟨_, _, hOutcome, _⟩ := Attach.runs_attach hRegion hNone
    cases hOutcome

theorem runs_stageInto {container : Container} {region : Region} {stream : Stream}
    {calls : List Exchange} {events : List Event}
    {result : Option (Except ImageError Placement × Region)}
    (h : Runs (stageInto container region stream) calls events result) :
    ∃ staged, container.stage region.memory stream = some staged ∧ calls = [] ∧
      events = (match staged.result with
        | .ok placement => [.partsLoaded placement.imageSize placement.heapSize
            container.executable.bssSize]
        | .error _ => []) ∧
      result = some (staged.result, region.withMemory staged.memory) := by
  obtain ⟨staged, hStaged, _⟩ := container.stage_total region.memory stream
  rw [stageInto, hStaged] at h
  refine ⟨staged, hStaged, ?_⟩
  rcases staged with ⟨cause | placement, memory, after⟩
  · exact runs_done_iff.mp h
  · obtain ⟨_, rfl, hEnd⟩ := runs_emit_iff.mp h
    obtain ⟨rfl, rfl, rfl⟩ := runs_done_iff.mp hEnd
    exact ⟨rfl, rfl, rfl⟩

theorem completes_stage (g : Granted l homebrew) :
    Completes l guest homebrew (g.calls guest) g.toAdmitted.events
      ((do
        let (placement, region) ← stage g.container g.region g.stream
        finish guest g.title g.plugin (l.wordsFor g.title) g.container placement region :
        LoadStage Unit).run.run
          ((g.toAdmitted.loader.inState .allocating).holding (some g.region))) := by
  intro calls events result h
  rw [run_bind, run_stage] at h
  obtain ⟨later, rfl, hStage⟩ := runs_emit_iff.mp h
  rw [bind_assoc] at hStage
  rcases runs_bind_iff.mp hStage with ⟨_, _, _, _, _, hFirst, hRest, rfl, rfl⟩ | ⟨rfl, hNone⟩
  · obtain ⟨⟨answer, memory, after⟩, hStaged, rfl, rfl, hAnswer⟩ := runs_stageInto hFirst
    obtain rfl := Option.some.inj hAnswer
    rcases answer with cause | placement
    · obtain ⟨rfl, rfl, rfl⟩ := runs_done_iff.mp hRest
      simp only [List.append_nil]
      exact ⟨_, _, rfl, .unstaged g hStaged⟩
    · let f : Filled l homebrew := ⟨g, placement, memory, after, hStaged⟩
      obtain ⟨outcome, l', rfl, hCourse⟩ := completes_finish f hRest
      refine ⟨outcome, l', rfl, ?_⟩
      rw [Granted.events, List.append_assoc, List.append_assoc] at hCourse
      exact hCourse
  · obtain ⟨_, _, _, _, hAnswer⟩ := runs_stageInto hNone
    cases hAnswer

theorem completes_install (a : Admitted l homebrew) :
    Completes l guest homebrew (a.calls guest)
      (a.toOpened.events ++ [.stateChanged .parsing .checking])
      ((install guest a.title a.plugin (l.wordsFor a.title) a.container a.stream).run.run
        a.loader) := by
  intro calls events result h
  rw [install, run_bind, run_reserve] at h
  obtain ⟨later, rfl, hReserve⟩ := runs_emit_iff.mp h
  rw [bind_assoc] at hReserve
  obtain ⟨_, _, _, _, _, hFirst, hRest, rfl, rfl⟩ :=
    (Reservation.reserve_total _ _ _).runs_bind_iff.mp hReserve
  obtain ⟨_, hOutcome, hReserved⟩ := Reservation.runs_reserve hFirst
  obtain rfl := Option.some.inj hOutcome
  cases hReserved with
  | granted block =>
    obtain ⟨outcome, l', rfl, hCourse⟩ := completes_stage ⟨a, block⟩ hRest
    refine ⟨outcome, l', rfl, ?_⟩
    rw [Granted.calls, Admitted.events] at hCourse
    simp only [List.append_assoc, List.cons_append, List.nil_append] at hCourse ⊢
    exact hCourse
  | refused code =>
    obtain ⟨rfl, rfl, rfl⟩ := runs_done_iff.mp hRest
    refine ⟨_, _, rfl, ?_⟩
    have hEnd : Course l guest homebrew _ _ _ _ := .unreserved a code
    rw [Admitted.events] at hEnd
    simp only [List.append_assoc, List.cons_append, List.nil_append, List.append_nil] at hEnd ⊢
    exact hEnd

theorem completes_examine (o : Opened l) :
    Completes l guest homebrew (o.calls guest)
      (.stateChanged l.context.state .resolving :: o.lookupEvents)
      ((do
        let (container, stream) ← examine o.plugin o.title homebrew
        install guest o.title o.plugin (l.wordsFor o.title) container stream :
        LoadStage Unit).run.run (l.resolving o.title)) := by
  intro calls events result h
  rw [run_bind, run_examine] at h
  obtain ⟨later, rfl, hParse⟩ := runs_emit_iff.mp h
  rcases hRead : Container.parse o.plugin.stream with ⟨cause | container, stream⟩
  · rw [hRead] at hParse
    obtain ⟨rfl, rfl, rfl⟩ := runs_done_iff.mp hParse
    rw [List.append_nil]
    exact ⟨_, _, rfl, .unreadable o hRead⟩
  rw [hRead] at hParse
  obtain ⟨later, rfl, hJudge⟩ := runs_emit_iff.mp hParse
  rw [bind_assoc] at hJudge
  rcases runs_bind_iff.mp hJudge with ⟨_, _, _, _, _, hFirst, hRest, rfl, rfl⟩ | ⟨rfl, hNone⟩
  · obtain ⟨rfl, rfl, hAnswer⟩ := Container.runs_judge hFirst
    rcases hAdmission : container.admission o.title homebrew with cause | _
    · rw [hAdmission] at hAnswer
      obtain rfl := Option.some.inj hAnswer
      obtain ⟨rfl, rfl, rfl⟩ := runs_done_iff.mp hRest
      refine ⟨_, _, rfl, ?_⟩
      have hEnd : Course l guest homebrew _ _ _ _ := .refused o hRead hAdmission
      rw [Opened.events] at hEnd
      simp only [List.append_assoc, List.cons_append, List.nil_append, List.append_nil] at hEnd ⊢
      exact hEnd
    · rw [hAdmission] at hAnswer
      obtain rfl := Option.some.inj hAnswer
      obtain ⟨outcome, l', rfl, hCourse⟩ :=
        completes_install ⟨o, container, stream, hRead, hAdmission⟩ hRest
      refine ⟨outcome, l', rfl, ?_⟩
      rw [Opened.events] at hCourse
      rw [Container.judgeEvents_of_admitted hAdmission]
      simp only [List.append_assoc, List.cons_append, List.nil_append] at hCourse ⊢
      exact hCourse
  · cases (Container.runs_judge hNone).2.2

/-- Every run of a load takes its course: none ends in an access outside a block. -/
theorem runs_load {calls : List Exchange} {events : List Event}
    {result : Option (Except LoadError Unit × Loader)}
    (h : Runs ((load guest homebrew).run.run l) calls events result) :
    ∃ outcome after, result = some (outcome, after) ∧
      Course l guest homebrew calls events outcome after := by
  rw [load_eq, run_bind, run_identify] at h
  obtain ⟨answer, later, rfl, hTitle⟩ := runs_call_iff.mp h
  rcases answer with code | title
  · obtain ⟨rfl, rfl, rfl⟩ := runs_done_iff.mp hTitle
    exact ⟨_, _, rfl, .unidentified code⟩
  change Runs ((openPlugin title >>= _ : LoadStage Unit).run.run l) _ _ _ at hTitle
  rw [run_bind, run_openPlugin] at hTitle
  obtain ⟨_, rfl, hLookup⟩ := runs_emit_iff.mp hTitle
  rw [bind_assoc] at hLookup
  obtain ⟨answer, _, _, _, _, hFirst, hRest, rfl, rfl⟩ :=
    (l.lookup_within title).total.runs_bind_iff.mp hLookup
  rcases answer with cause | plugin
  · obtain ⟨rfl, rfl, rfl⟩ := runs_done_iff.mp hRest
    simp only [List.append_nil]
    exact ⟨_, _, rfl, .unopened hFirst⟩
  · obtain ⟨outcome, l', rfl, hCourse⟩ :=
      completes_examine ⟨title, plugin, _, _, hFirst⟩ hRest
    exact ⟨outcome, l', rfl, hCourse⟩

end Loader
end GuestPlugin
