import PodcastLedger.Text.LetterCase

/-!
# Kinds of devices

What sort of machine a device is. `DeviceKind.ofText?` reads a kind in any letter case and
`DeviceKind.name` writes it; `ofText?_name` says that what is written reads back.
-/

namespace PodcastLedger

/-- What sort of machine a device is. -/
inductive DeviceKind where
  | desktop
  | laptop
  | mobile
  | other
  | server
  deriving DecidableEq, Repr

namespace DeviceKind

/-- The name of a kind of device. -/
def name : DeviceKind → String
  | .desktop => "desktop"
  | .laptop => "laptop"
  | .mobile => "mobile"
  | .other => "other"
  | .server => "server"

/-- The kind of device that a text names in any letter case. -/
def ofText? (text : String) : Option DeviceKind :=
  [DeviceKind.desktop, .laptop, .mobile, .other, .server].find? fun kind =>
    Text.smallLetters text == kind.name

/-- The name of a kind reads back as the kind. -/
theorem ofText?_name (kind : DeviceKind) : ofText? kind.name = some kind := by
  cases kind <;> decide

end DeviceKind

end PodcastLedger
