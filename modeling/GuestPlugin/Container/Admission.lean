import GuestPlugin.Container
import GuestPlugin.Host.Program

/-! # Whether a plugin may attach to a guest

The rules apply in order and the first that fails decides: emulator-only plugins never run on
hardware, homebrew needs the plugin's consent, and a list of targets must name the guest.
-/

set_option autoImplicit false

namespace GuestPlugin.Container

def admission (c : Container) (title : TitleId) (homebrew : Bool) : Except AdmissionError Unit :=
  if c.manifest.compatibility = .emulatorOnly then .error .emulatorOnly
  else if homebrew && !c.manifest.allowsHomebrew then .error .homebrewRefused
  else if c.targets.admits title then .ok ()
  else .error (.notTargeted c.manifest.title c.manifest.author)

/-- Decides on admission, and reports a guest that the targets do not name. -/
def judge (c : Container) (title : TitleId) (homebrew : Bool) :
    Program (Except AdmissionError Unit) := do
  let result := c.admission title homebrew
  if let .error (.notTargeted _ _) := result then
    Program.report (.titleNotTargeted title c.targets.toList)
  return result

end GuestPlugin.Container
