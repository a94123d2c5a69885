import GuestPlugin.Container.Admission
import GuestPlugin.Container.Read
import GuestPlugin.Guest.Attach
import GuestPlugin.Host.Reservation
import GuestPlugin.Loader.Context
import GuestPlugin.Lookup
import GuestPlugin.Region.Staging

/-! # Loading plugins into guests

A loader carries its configuration, the one region it holds, and its context. A load runs through its
stages in order and stops at the first that fails; then the region is given back and the failure
remembered. Restoring the entry and the exit of a guest are separate operations.

A mapping is only undone where attaching fails. The region of an attached plugin is given back by the
next load or by the guest's exit.
-/

set_option autoImplicit false

namespace GuestPlugin

structure Loader where
  config : Config
  held : Option Region
  context : Context

def Loader.new (config : Config) : Loader := ⟨config, none, .fresh config.strategy none⟩

abbrev LoaderM := StateT Loader Program

/-- A stage of a load: it may fail, and what it did to the loader stays. -/
abbrev LoadStage := ExceptT LoadError LoaderM

namespace Loader

def modifyContext (f : Context → Context) : LoaderM Unit :=
  modify fun l => { l with context := f l.context }

def moveTo (state : LoadState) : LoaderM Unit := do
  let l ← get
  Program.report (.stateChanged l.context.state state)
  set { l with context := { l.context with state } }

/-- Gives back the held region and tells whether there was one. -/
def release : LoaderM Bool := do
  let l ← get
  set { l with held := none }
  Reservation.release l.held

/-- A stage's answer, its failure counted among those of a load. -/
def orFail {ε α : Type} (cause : ε → LoadError) (result : Except ε α) : LoadStage α :=
  match result with
  | .ok a => return a
  | .error e => throw (cause e)

def identify (guest : Guest) : LoadStage TitleId := do
  orFail (.resource ∘ .unknownGuest) (← Program.ask (.titleOf guest))

/-- Opens the forced file if a forced load applies, and the title's plugin otherwise. Also returns
the configuration words that go with it. -/
def openPlugin (title : TitleId) : LoadStage (OpenedPlugin × ConfigWords) := do
  moveTo .resolving
  let l ← get
  let (taken, stored) := Context.takeForced title l.context.forced
  match taken with
  | some forced =>
    modifyContext fun c => { c with forced := stored, strategy := forced.strategy }
    let plugin ← orFail .lookup (← Lookup.openForced forced.path)
    return (plugin, forced.words)
  | none =>
    let plugin ← orFail .lookup (← Lookup.openPlugin l.config title)
    return (plugin, Vector.replicate 32 0)

def examine (plugin : OpenedPlugin) (title : TitleId) (homebrew : Bool) :
    LoadStage (Container × Stream) := do
  modifyContext fun c => { c with pluginPath := some plugin.path, isDefault := plugin.isDefault }
  moveTo .parsing
  let (parsed, stream) := (Container.read.run.run plugin.stream).run
  let container ← orFail .format parsed
  moveTo .checking
  orFail .admission (← container.judge title homebrew)
  modifyContext (·.admitted container)
  return (container, stream)

def reserve (tier : Tier) : LoadStage Region := do
  moveTo .allocating
  let l ← get
  set { l with held := none }
  let region ← orFail .resource (← Reservation.reserve l.held tier (l.config.tierSize tier))
  modify fun l => { l with held := some region }
  return region

/-- Copies the executable into a region and reports its sizes. -/
def stageInto (container : Container) (region : Region) (stream : Stream) :
    Program (Except ImageError Placement × Region) := do
  let staged ← Program.ofOption (container.stage region.memory stream)
  if let .ok placement := staged.result then
    Program.report
      (.partsLoaded placement.imageSize placement.heapSize container.executable.bssSize)
  return (staged.result, region.withMemory staged.memory)

def stage (container : Container) (region : Region) (stream : Stream) :
    LoadStage (Placement × Region) := do
  moveTo .staging
  let (result, region) ← stageInto container region stream
  modify fun l => { l with held := some region }
  let placement ← orFail .image result
  return (placement, region)

def controlBlock (config : Config) (container : Container) (placement : Placement)
    (isDefault : Bool) (words : ConfigWords) : ControlBlock where
  magic := ControlBlock.pluginMagic
  version := container.version
  heapAddress := config.heapAddress
  heapSize := placement.heapSize
  imageSize := placement.imageSize
  isDefault
  eventChannel := config.eventChannel
  replyChannel := config.replyChannel
  config := words

def attachTo (guest : Guest) (region : Region) (block : ControlBlock) : LoadStage Unit := do
  moveTo .attaching
  let l ← get
  let (result, region) ← attach l.config guest region block
  modify fun l => { l with held := some region }
  let saved ← orFail .resource result
  modifyContext fun c => { c with savedEntry := some saved }

def load (guest : Guest) (homebrew : Bool) : LoadStage Unit := do
  let title ← identify guest
  let (plugin, words) ← openPlugin title
  let (container, stream) ← examine plugin title homebrew
  let region ← reserve container.manifest.tier
  let (placement, region) ← stage container region stream
  let config := (← get).config
  attachTo guest region (controlBlock config container placement plugin.isDefault words)
  Program.report
    (.pluginAttached title plugin.path container.manifest.title placement.imageSize
      placement.heapSize)

def failureEvent (cause : LoadError) (released : Bool) : Event :=
  match cause.userMessage? with
  | some message => .loadFailed message released
  | none => .loadSkipped cause

/-- Loads the plugin of a guest that is being launched. -/
def tryLoad (guest : Guest) (homebrew : Bool) : LoaderM (Except LoadError Unit) := do
  modify fun l => { l with context := .fresh l.config.strategy l.context.forced }
  match ← (load guest homebrew).run with
  | .ok () =>
    moveTo .attached
    return .ok ()
  | .error cause =>
    let released ← release
    moveTo .failed
    Program.report (failureEvent cause released)
    modifyContext fun c => { c with lastError := some cause }
    return .error cause

def setForced (forced : Option ForcedLoad) : LoaderM Unit :=
  modifyContext fun c => { c with forced }

/-- Puts the guest's own entry words back, if its entry is hooked. After a failure they are kept. -/
def restoreEntry (guest : Guest) : LoaderM (Except ResourceError Unit) := do
  let l ← get
  match l.context.savedEntry with
  | none => return .ok ()
  | some saved =>
    match ← EntryHook.restore guest saved with
    | .error code => return .error (.entryMappingFailed code)
    | .ok () =>
      modifyContext fun c => { c with savedEntry := none }
      return .ok ()

/-- Gives the region back when the guest it was attached to ends. -/
def guestExit : LoaderM Unit := do
  if ← release then
    Program.report .releasedOnExit
  modifyContext fun c => { c with savedEntry := none }
  moveTo .idle

end Loader
end GuestPlugin
