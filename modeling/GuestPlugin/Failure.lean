import GuestPlugin.Path
import GuestPlugin.Title

/-! # Why a load fails

One type of causes for each stage, gathered in `LoadError`. A cause carries what its message names
and nothing else; the wording stands in `LoadError.message` alone. Whether the operator is shown that
message is a separate decision: homebrew refused by a plugin is the expected outcome and stays silent.
-/

set_option autoImplicit false

namespace GuestPlugin

structure ResultCode where
  value : UInt32
deriving DecidableEq

def ResultCode.message (code : ResultCode) : String :=
  "kernel result 0x" ++ Hex.padded 8 code.value.toNat

/-- What a storage reports when something cannot be opened or read. -/
structure StorageFailure where
  message : String
deriving DecidableEq

/-- No plugin file could be opened for the guest. -/
inductive LookupError where
  | notFound (title : TitleId)
  | forcedFileUnavailable (path : Path)
deriving DecidableEq

/-- The file cannot be read or is no container that this loader understands. -/
inductive FormatError where
  | unreadable
  | badMagic
  | pluginTooOld (version : UInt32)
  | loaderTooOld (version : UInt32)
  | invalidField (field : String)
  | invalidPayload
deriving DecidableEq

/-- The plugin refuses this guest. -/
inductive AdmissionError where
  | emulatorOnly
  | homebrewRefused
  | notTargeted (title author : String)
deriving DecidableEq

/-- A privileged resource could not be obtained. -/
inductive ResourceError where
  | unknownGuest (code : ResultCode)
  | allocationRefused (size : UInt32)
  | mappingFailed (code : ResultCode)
  | entryMappingFailed (code : ResultCode)
deriving DecidableEq

/-- The image could not be laid out or copied. -/
inductive ImageError where
  | missingLoadRoutine
  | outsideFile
  | readFailed
  | tooLarge (imageSize regionSize : UInt32)
deriving DecidableEq

inductive LoadError where
  | lookup (cause : LookupError)
  | format (cause : FormatError)
  | admission (cause : AdmissionError)
  | resource (cause : ResourceError)
  | image (cause : ImageError)
deriving DecidableEq

def LookupError.message : LookupError → String
  | .notFound title => "No plugin found for title " ++ title.render
  | .forcedFileUnavailable path => "Cannot open plugin file " ++ path.text

def FormatError.message : FormatError → String
  | .unreadable => "Cannot read the plugin file."
  | .badMagic => "Invalid plugin file\nThis is not a valid 3GX plugin!"
  | .pluginTooOld version =>
    "Outdated plugin file (version " ++ toString version.toNat ++ ")\nLook for a newer plugin."
  | .loaderTooOld version =>
    "Outdated plugin loader (plugin version " ++ toString version.toNat ++
      ")\nCheck for loader updates."
  | .invalidField field => "Invalid plugin header field: " ++ field
  | .invalidPayload => "Invalid save/load payloads."

def AdmissionError.message : AdmissionError → String
  | .emulatorOnly => "The plugin is only compatible with emulators"
  | .homebrewRefused => "The plugin does not allow loading on homebrew"
  | .notTargeted title author =>
    "The plugin - " ++ title ++ " -\nis not compatible with this game.\nContact \"" ++ author ++
      "\" for more info."

/-- A size in messages: `0x` and the fewest digits. -/
def sizeText (size : UInt32) : String := "0x" ++ Hex.minimal size.toNat

def ResourceError.message : ResourceError → String
  | .unknownGuest code => "Cannot query the guest process: " ++ code.message
  | .allocationRefused size => "Memory allocation failed (" ++ sizeText size ++ " bytes)"
  | .mappingFailed code => "Cannot map the plugin into the process: " ++ code.message
  | .entryMappingFailed code => "Cannot map the process: " ++ code.message

def ImageError.message : ImageError → String
  | .missingLoadRoutine => "This plugin requires a load function."
  | .outsideFile => "This plugin is corrupted."
  | .readFailed => "Cannot read the plugin code"
  | .tooLarge imageSize regionSize =>
    "Plugin image (" ++ sizeText imageSize ++ " bytes) does not fit its memory region (" ++
      sizeText regionSize ++ " bytes)"

def LoadError.message : LoadError → String
  | .lookup cause => cause.message
  | .format cause => cause.message
  | .admission cause => cause.message
  | .resource cause => cause.message
  | .image cause => cause.message

def LoadError.userMessage? (e : LoadError) : Option String :=
  if e = .admission .homebrewRefused then none else some e.message

theorem LoadError.userMessage?_eq_none_iff (e : LoadError) :
    e.userMessage? = none ↔ e = .admission .homebrewRefused := by
  unfold userMessage?
  split <;> simp_all

end GuestPlugin
