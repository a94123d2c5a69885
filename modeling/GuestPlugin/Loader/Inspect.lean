import GuestPlugin.Loader
import GuestPlugin.Text.Diagnostic

/-! # Diagnostic text of a loader

How configuration, context, regions and errors are written out. What would be opaque or too long
stands behind a placeholder: the storage, the kernel, open files and the contents of a block.
-/

set_option autoImplicit false

namespace GuestPlugin

open Diagnostic

def Path.inspect (p : Path) : String := quoted p.text

def TitleId.inspect (t : TitleId) : String := apply "TitleId" (toString t.value.toNat)

def ResultCode.inspect (code : ResultCode) : String := apply "KernelError" (word code.value)

def LookupError.inspect : LookupError → String
  | .notFound title => apply "NotFound" title.inspect
  | .forcedFileUnavailable path => apply "ForcedPathUnavailable" path.inspect

def FormatError.inspect : FormatError → String
  | .unreadable => "Unreadable"
  | .badMagic => "BadMagic"
  | .pluginTooOld version => apply "PluginTooOld" (word version)
  | .loaderTooOld version => apply "LoaderTooOld" (word version)
  | .invalidField field => apply "InvalidField" (quoted field)
  | .invalidPayload => "InvalidPayload"

def AdmissionError.inspect : AdmissionError → String
  | .emulatorOnly => "EmulatorOnly"
  | .homebrewRefused => "HomebrewDisallowed"
  | .notTargeted title author =>
    record "TitleMismatch" [("title", quoted title), ("author", quoted author)]

def ResourceError.inspect : ResourceError → String
  | .unknownGuest code => apply "ProcessQueryFailed" code.inspect
  | .allocationRefused size => record "AllocationFailed" [("size", word size)]
  | .mappingFailed code => apply "MappingFailed" code.inspect
  | .entryMappingFailed code => apply "EntryMappingFailed" code.inspect

def ImageError.inspect : ImageError → String
  | .missingLoadRoutine => "MissingLoadRoutine"
  | .outsideFile => "CorruptLayout"
  | .readFailed => "ReadFailed"
  | .tooLarge imageSize regionSize =>
    record "ImageTooLarge" [("image_size", word imageSize), ("region_size", word regionSize)]

def LoadError.inspect : LoadError → String
  | .lookup cause => apply "FileResolution" cause.inspect
  | .format cause => apply "Format" cause.inspect
  | .admission cause => apply "Compatibility" cause.inspect
  | .resource cause => apply "Resource" cause.inspect
  | .image cause => apply "Segment" cause.inspect

def Region.inspect (r : Region) : String :=
  record "Region" [
    ("tier", r.tier.name),
    ("block", record "RawBlock" [
      ("handle", word r.handle),
      ("memory", quoted ("Memory[len=" ++ sizeText r.size ++ "]"))])]

def Reservation.inspect (pool : String) (held : Option Region) : String :=
  record "RegionAllocator" [("pool", pool), ("held", optional (held.map Region.inspect))]

def OpenedPlugin.inspect (p : OpenedPlugin) : String :=
  record "ResolvedPlugin" [
    ("path", p.path.inspect),
    ("file", quoted "<File>"),
    ("is_default", bool p.isDefault)]

def Config.inspect (c : Config) : String :=
  record "LoaderConfig" [
    ("plugin_root", c.pluginRoot.inspect),
    ("extension", quoted c.extension),
    ("default_stem", quoted c.defaultStem),
    ("dir_batch_size", toString c.batchSize),
    ("tier_sizes", list (c.tierSizes.toList.map word)),
    ("entry_address", word c.entryAddress),
    ("heap_address", word c.heapAddress),
    ("trampoline_address", word c.trampoline),
    ("event_channel", word c.eventChannel),
    ("reply_channel", word c.replyChannel),
    ("memory_strategy", c.strategy.name)]

def ForcedLoad.inspect (f : ForcedLoad) : String :=
  record "ForcedLoadParameters" [
    ("title_filter", optional (f.title?.map TitleId.inspect)),
    ("path", f.path.inspect),
    ("persistent", bool f.persistent),
    ("memory_strategy", f.strategy.name),
    ("config", list (f.words.toList.map word))]

def SavedEntry.inspect (s : SavedEntry) : String :=
  record "SavedEntry" [
    ("address", word s.address),
    ("words", list [word s.words.first, word s.words.second])]

def Payloads.inspect (p : Payloads) : String :=
  record "EmbeddedPayloads" [("save", bytes p.save), ("load", bytes p.load)]

def Context.inspect (c : Context) : String :=
  record "LoadContext" [
    ("state", c.state.name),
    ("plugin_path", optional (c.pluginPath.map Path.inspect)),
    ("last_error", optional (c.lastError.map LoadError.inspect)),
    ("memory_strategy", c.strategy.name),
    ("events_self_managed", bool c.managesEvents),
    ("is_memory_private", bool c.privateMemory),
    ("is_default_plugin", bool c.isDefault),
    ("exe_load_checksum", word c.checksum),
    ("payloads", c.payloads.inspect),
    ("forced", optional (c.forced.map ForcedLoad.inspect)),
    ("saved_entry", optional (c.savedEntry.map SavedEntry.inspect))]

def Loader.inspect (pool : String) (l : Loader) : String :=
  record "PluginLoader" [
    ("config", l.config.inspect),
    ("storage", quoted "<Storage>"),
    ("kernel", quoted "<Kernel>"),
    ("allocator", Reservation.inspect pool l.held),
    ("context", l.context.inspect)]

end GuestPlugin
