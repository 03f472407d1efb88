import PodcastLedger.Account.User

/-!
# The registry of devices

A device comes into being when it is first named in an upload. `Store.registerDevice` finds it or
adds it with an empty caption and the kind `other`, and says which; other operations change what is
known about a device, list the devices of a user, and destroy a device, whose actions stay without
it.
-/

namespace PodcastLedger.Store

/-- The device of a user and name. -/
def findDevice? (store : Store) (userId : Int) (name : String) : Option (Entry Device) :=
  store.devices.find? fun device => device.userId == userId && device.name == name

/-- Looks for a device by any text. -/
def selectDevice (store : Store) (userId : Int) (name : String) :
    Except Failure (Option (Entry Device)) := do
  require (IsBindable name) .selectDevice
  .ok (store.findDevice? userId name)

/-- The device of a user and name, which must be known. -/
def loadDevice (store : Store) (userId : Int) (name : String) :
    Except Failure (Entry Device) := do
  match ← store.selectDevice userId name with
  | some device => .ok device
  | none => .error (.unknownDevice name)

/-- A device that an upload named, and whether it is new. -/
structure Registration where
  device : Entry Device
  created : Bool
  deriving DecidableEq

/-- Adds a device unless the user has one of that name. A device has a name and an owner. -/
def insertDevice (store : Store) (userId : Int) (name : String) :
    Except Failure (Store × Registration) := do
  require (name ≠ "" ∧ IsBindable name ∧ store.users.Has userId) .insertDevice
  match store.findDevice? userId name with
  | some device => .ok (store, ⟨device, false⟩)
  | none =>
    let device : Device := ⟨userId, name, "", .other⟩
    .ok ({ store with devices := store.devices.insert device },
      ⟨⟨store.devices.next, device⟩, true⟩)

/-- Finds the device of a valid name or adds it. -/
def registerDevice (store : Store) (userId : Int) (name : String) :
    Except Failure (Store × Registration) := do
  validateName "device" name
  store.insertDevice userId name

/-- Gives the device under an id a caption and a kind. -/
def describeDevice (store : Store) (device : Entry Device) (caption : String) (kind : DeviceKind) :
    Except Failure (Store × Entry Device) := do
  require (IsBindable caption) .updateDevice
  let describe := fun row : Device => { row with caption, kind }
  .ok ({ store with devices := store.devices.modify (fun entry => entry.id == device.id) describe },
    ⟨device.id, describe device.row⟩)

/-- Reads the kind of a device if one is given. -/
def readDeviceKind (text : Option String) : Except Failure (Option DeviceKind) :=
  match text with
  | none => .ok none
  | some text =>
    match DeviceKind.ofText? text with
    | some kind => .ok (some kind)
    | none => .error (.invalid (.unknownDeviceKind text))

/-- Changes the caption and the kind of a device as far as they are given. The device is registered
if it is new. -/
def updateDevice (store : Store) (userName name : String) (caption kind : Option String) :
    Except Failure (Store × Entry Device) := do
  validateName "device" name
  let kind ← readDeviceKind kind
  let user ← store.loadUser userName
  let (store, registration) ← store.registerDevice user.id name
  let device := registration.device
  store.describeDevice device (caption.getD device.row.caption) (kind.getD device.row.kind)

/-- A device of a user and the number of podcasts that the user is subscribed to. -/
structure DeviceSummary where
  device : Entry Device
  subscriptions : Nat
  deriving DecidableEq

/-- The number of podcasts that a user is subscribed to. -/
def countSubscriptions (store : Store) (userId : Int) : Nat :=
  store.podcasts.entries.countP fun podcast =>
    podcast.row.userId == userId && podcast.row.subscribed

/-- The devices of a user in the order of their names. Subscriptions belong to the account, so all
devices show the same number. -/
def listDevices (store : Store) (userName : String) : Except Failure (List DeviceSummary) := do
  let user ← store.loadUser userName
  let devices := store.devices.entries.filter fun device => device.row.userId == user.id
  let sorted := devices.mergeSort fun first second => decide (first.row.name ≤ second.row.name)
  .ok (sorted.map fun device => ⟨device, store.countSubscriptions user.id⟩)

/-- The number of rows that the end of a device concerned. -/
structure DestroyedDevice where
  devices : Nat
  detached : Nat
  settings : Nat
  deriving DecidableEq, Repr

/-- Destroys a device: its actions are detached, its settings deleted, and it is deleted itself. -/
def destroyDevice (store : Store) (userName name : String) :
    Except Failure (Store × DestroyedDevice) := do
  let user ← store.loadUser userName
  let device ← store.loadDevice user.id name
  let fromDevice := fun action : Entry EpisodeAction => action.row.deviceId == some device.id
  let ofDevice := fun setting : Entry Setting => setting.row.target.device? == some device.id
  let isDevice := fun entry : Entry Device => entry.id == device.id
  let detached :=
    { store with
      actions := store.actions.modify fromDevice fun action => { action with deviceId := none } }
  let afterSettings := detached.deleteSettings ofDevice
  .ok (afterSettings.deleteDevices isDevice,
    { devices := afterSettings.devices.entries.countP isDevice
      detached := store.actions.entries.countP fromDevice
      settings := detached.settings.entries.countP ofDevice })

end PodcastLedger.Store
