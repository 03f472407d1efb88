import PodcastLedger.Proofs.Settings.Statements
import PodcastLedger.Proofs.Statements.Procedure

/-!
# Operations by statements

The operations that write to the store, as procedures over statements on single rows. What the
statements do, and what they fail for, is a parameter (`RowStatements`); the operations walk over rows
and addresses, remember what they have found, and put the results of the statements together
(`RowStatements.perform`).
-/

namespace PodcastLedger

/-- Ids by the texts that they were found by. -/
abbrev Memory := List (String × Int)

/-- A way to carry out the statements on single rows, and to tell other failures. -/
structure RowStatements (Reason : Type) where
  told {Result : Type} (outcome : Except Failure Result) : Except Reason Result
  isTaken (name : String) : Procedure Reason Bool
  insertUser (user : User) : Procedure Reason (Entry User)
  registerDevice (userId : Int) (name : String) : Procedure Reason Store.Registration
  describeDevice (device : Entry Device) (caption : String) (kind : DeviceKind) :
    Procedure Reason (Entry Device)
  insertPodcast (userId : Int) (url : String) : Procedure Reason (Entry Podcast)
  updateSubscription (podcast : Entry Podcast) (subscribed : Bool) (time : Instant) :
    Procedure Reason (Entry Podcast)
  insertEpisode (podcastId : Int) (url : String) (guid : Option String) :
    Procedure Reason (Entry Episode)
  appendActions (rows : List EpisodeAction) : Procedure Reason (List (Entry EpisodeAction))
  upsertSetting (userId : Int) (target : Target) (key value : String) : Procedure Reason Unit
  removeSetting (userId : Int) (target : Target) (key : String) : Procedure Reason Unit
  alter (context : String) (change : Store → Store) (count : Store → Nat) : Procedure Reason Nat

namespace RowStatements

variable {Reason Result : Type} (statements : RowStatements Reason)

/-- Something that is settled without a statement. -/
def check (outcome : Except Failure Result) : Procedure Reason Result :=
  .settle (statements.told outcome)

/-- A statement that only reads. -/
def query (read : Store → Except Failure Result) : Procedure Reason Result :=
  .query fun store => statements.told (read store)

/-! ## Accounts -/

/-- Creates a user account, if the name is free. -/
def createUser (name password : String) (workFactor : Nat) : Procedure Reason (Entry User) := do
  statements.check (validateName "user" name)
  if password.utf8ByteSize < minPasswordLength then
    statements.check (.error (.invalid .shortPassword))
  else if workFactor < minWorkFactor ∨ maxWorkFactor < workFactor then
    statements.check (.error (.invalid .workFactorOutOfRange))
  else do
    if ← statements.isTaken name then statements.check (.error (.invalid .userNameTaken))
    else statements.insertUser ⟨name, false, workFactor⟩

/-- Destroys the account of a user: settings, actions, episodes, podcasts, devices and at last the
user. While podcasts are there, they show which of the other rows are those of the user. -/
def destroyUser (name : String) : Procedure Reason Store.DestroyedUser := do
  let user ← statements.query (·.loadUser name)
  let ofSetting := fun setting : Entry Setting => setting.row.userId == user.id
  let ofAction := fun (store : Store) (action : Entry EpisodeAction) =>
    store.ownsPodcast user.id action.row.podcastId
  let ofEpisode := fun (store : Store) (episode : Entry Episode) =>
    store.ownsPodcast user.id episode.row.podcastId
  let ofPodcast := fun podcast : Entry Podcast => podcast.row.userId == user.id
  let ofDevice := fun device : Entry Device => device.row.userId == user.id
  let ofUser := fun entry : Entry User => entry.id == user.id
  let settings ← statements.alter "Error deleting settings" (·.deleteSettings ofSetting)
    fun store => store.settings.entries.countP ofSetting
  let episodeActions ← statements.alter "Error deleting episode actions"
    (fun store => store.deleteActions (ofAction store))
    fun store => store.actions.entries.countP (ofAction store)
  let episodes ← statements.alter "Error deleting episodes"
    (fun store => store.deleteEpisodes (ofEpisode store))
    fun store => store.episodes.entries.countP (ofEpisode store)
  let podcasts ← statements.alter "Error deleting podcasts" (·.deletePodcasts ofPodcast)
    fun store => store.podcasts.entries.countP ofPodcast
  let devices ← statements.alter "Error deleting devices" (·.deleteDevices ofDevice)
    fun store => store.devices.entries.countP ofDevice
  let users ← statements.alter "Error deleting user" (·.deleteUsers ofUser)
    fun store => store.users.entries.countP ofUser
  pure { devices, episodeActions, episodes, podcasts, settings, users }

/-! ## Devices -/

/-- Changes the caption and the kind of a device as far as they are given. -/
def updateDevice (userName name : String) (caption kind : Option String) :
    Procedure Reason (Entry Device) := do
  statements.check (validateName "device" name)
  let kind ← statements.check (Store.readDeviceKind kind)
  let user ← statements.query (·.loadUser userName)
  let registration ← statements.registerDevice user.id name
  let device := registration.device
  statements.describeDevice device (caption.getD device.row.caption) (kind.getD device.row.kind)

/-- Destroys a device: its actions are detached, its settings deleted, and it is deleted itself. -/
def destroyDevice (userName name : String) : Procedure Reason Store.DestroyedDevice := do
  let user ← statements.query (·.loadUser userName)
  let device ← statements.query (·.loadDevice user.id name)
  let fromDevice := fun action : Entry EpisodeAction => action.row.deviceId == some device.id
  let ofDevice := fun setting : Entry Setting => setting.row.target.device? == some device.id
  let isDevice := fun entry : Entry Device => entry.id == device.id
  let detached ← statements.alter "Error detaching episode actions from device"
    (fun store => { store with
      actions := store.actions.modify fromDevice fun action => { action with deviceId := none } })
    fun store => store.actions.entries.countP fromDevice
  let settings ← statements.alter "Error deleting device settings" (·.deleteSettings ofDevice)
    fun store => store.settings.entries.countP ofDevice
  let devices ← statements.alter "Error deleting device" (·.deleteDevices isDevice)
    fun store => store.devices.entries.countP isDevice
  pure { devices, detached, settings }

/-! ## Subscriptions -/

/-- Turns a podcast that was read before, if it is not as wanted. -/
def turnRow (podcast : Entry Podcast) (subscribed : Bool) (time : Instant) :
    Procedure Reason (List (Entry Podcast)) :=
  if podcast.row.subscribed = subscribed then pure []
  else do
    let written ← statements.updateSubscription podcast subscribed time
    pure [written]

/-- Ends subscriptions to podcasts that were read before, one after the other, but for addresses to
keep. -/
def endRows (keeps : String → Bool) (time : Instant) :
    List (Entry Podcast) → Procedure Reason (List (Entry Podcast))
  | [] => pure []
  | podcast :: rest =>
    if keeps podcast.row.url then endRows keeps time rest
    else do
      let first ← statements.turnRow podcast false time
      let others ← endRows keeps time rest
      pure (first ++ others)

/-- The podcast of the address among those that are known from before, or else the one that is found
or added. -/
def takePodcast (userId : Int) (known : List (Entry Podcast)) (url : String) :
    Procedure Reason (Entry Podcast) :=
  match known.find? fun podcast => podcast.row.url == url with
  | some podcast => pure podcast
  | none => statements.insertPodcast userId url

/-- Subscribes a user to addresses one after the other. What is known from before of an address is
used up with it. -/
def subscribeEach (userId : Int) (known : List (Entry Podcast)) (time : Instant) :
    List String → Procedure Reason (List (Entry Podcast))
  | [] => pure []
  | url :: rest => do
    let podcast ← statements.takePodcast userId known url
    let first ← statements.turnRow podcast true time
    let left := known.filter fun podcast => podcast.row.url != url
    let others ← subscribeEach userId left time rest
    pure (first ++ others)

/-- Ends subscriptions of a user to addresses one after the other. What is not found has none. -/
def endEach (userId : Int) (time : Instant) :
    List String → Procedure Reason (List (Entry Podcast))
  | [] => pure []
  | url :: rest => do
    match ← statements.query (·.selectPodcast userId url) with
    | none => endEach userId time rest
    | some podcast =>
      let first ← statements.turnRow podcast false time
      let others ← endEach userId time rest
      pure (first ++ others)

/-- Makes the given addresses the whole list of subscriptions of a user. The podcasts of the user are
read once and walked over in the order that is given for them. -/
def replaceSubscriptions (order : List (Entry Podcast) → List (Entry Podcast))
    (userName device : String) (timestamp : Instant) (raws : List String) :
    Procedure Reason SubscriptionUpdate := do
  statements.check (validateName "device" device)
  let urls := Web.canonicalAll raws
  let user ← statements.query (·.loadUser userName)
  let _ ← statements.registerDevice user.id device
  let known ← statements.query fun store =>
    .ok (order (store.podcasts.entries.filter fun podcast => podcast.row.userId == user.id))
  let unsubscribed ← statements.endRows urls.contains timestamp known
  let left := known.map fun podcast =>
    if urls.contains podcast.row.url then podcast
    else ⟨podcast.id, podcast.row.turn false timestamp⟩
  let subscribed ← statements.subscribeEach user.id left timestamp urls
  pure ⟨subscribed, unsubscribed, timestamp, Web.rewrites raws⟩

/-- Adds subscriptions of a user and ends others. -/
def changeSubscriptions (userName device : String) (timestamp : Instant)
    (add remove : List String) : Procedure Reason SubscriptionUpdate := do
  statements.check (validateName "device" device)
  let added := Web.canonicalAll add
  let removed := Web.canonicalAll remove
  match added.find? removed.contains with
  | some url => statements.check (.error (.invalid (.addedAndRemoved url)))
  | none =>
    let user ← statements.query (·.loadUser userName)
    let _ ← statements.registerDevice user.id device
    let subscribed ← statements.subscribeEach user.id [] timestamp added
    let unsubscribed ← statements.endEach user.id timestamp removed
    pure ⟨subscribed, unsubscribed, timestamp, Web.rewrites (add ++ remove)⟩

/-! ## Batches of actions -/

/-- The id that is remembered for a text, or else the one that is found, which is remembered then. -/
def recallText (find : String → Procedure Reason Int) (memory : Memory) (text : String) :
    Procedure Reason (Memory × Int) :=
  match memory.lookup text with
  | some id => pure (memory, id)
  | none => do
    let id ← find text
    pure ((text, id) :: memory, id)

/-- What is remembered is not looked for. -/
theorem recall_text_of_some {memory : Memory} {text : String} {id : Int}
    (hlookup : memory.lookup text = some id) (find : String → Procedure Reason Int) :
    recallText find memory text = pure (memory, id) := by
  unfold recallText
  rw [hlookup]

/-- What is not remembered is looked for, and remembered if it is found. -/
theorem recall_text_of_none {memory : Memory} {text : String} (hlookup : memory.lookup text = none)
    (find : String → Procedure Reason Int) :
    recallText find memory text = (do
      let id ← find text
      pure ((text, id) :: memory, id)) := by
  unfold recallText
  rw [hlookup]

/-- The id of the device of a user and name, which is registered if it is new. -/
def deviceId (userId : Int) (name : String) : Procedure Reason Int :=
  (·.device.id) <$> statements.registerDevice userId name

/-- The id of the podcast of a user and address, which is added if it is new. -/
def podcastId (userId : Int) (url : String) : Procedure Reason Int :=
  (·.id) <$> statements.insertPodcast userId url

/-- The id of the episode of a podcast and address, which is added if it is new. -/
def episodeId (podcastId : Int) (url : String) (guid : Option String) : Procedure Reason Int :=
  (·.id) <$> statements.insertEpisode podcastId url guid

/-- The id of the device that an action names, if it names one. -/
def recallDevice (userId : Int) (memory : Memory) (device : Option String) :
    Procedure Reason (Memory × Option Int) :=
  match device with
  | none => pure (memory, none)
  | some name => do
    let (memory, id) ← recallText (statements.deviceId userId) memory name
    pure (memory, some id)

/-- Places actions one after the other. What was found for an earlier action is not looked for
again. -/
def place (userId : Int) (devices podcasts : Memory) :
    List ValidAction → Procedure Reason (List EpisodeAction)
  | [] => pure []
  | action :: actions => do
    let (devices, deviceId) ← statements.recallDevice userId devices action.device
    let (podcasts, podcastId) ←
      recallText (statements.podcastId userId) podcasts action.podcast
    let episodeId ← statements.episodeId podcastId action.episode action.guid
    let row : EpisodeAction :=
      { kind := action.kind
        deviceId
        podcastId
        episodeId
        occurredAt := action.timestamp
        started := action.started
        position := action.position
        total := action.total }
    let rows ← place userId devices podcasts actions
    pure (row :: rows)

/-- Appends a batch of rows to the log in one statement, unless there are none. -/
def insertActions (rows : List EpisodeAction) : Procedure Reason (List (Entry EpisodeAction)) :=
  if rows = [] then pure [] else statements.appendActions rows

/-- Stores a batch of actions of a user. What was found for an earlier action is not looked for
again. -/
def addActions (userName : String) (uploads : List ActionUpload) :
    Procedure Reason ActionsAdded := do
  let actions ← statements.check (uploads.mapM ActionUpload.validate)
  let user ← statements.query (·.loadUser userName)
  let rows ← statements.place user.id [] [] actions
  let entries ← statements.insertActions rows
  pure ⟨entries, Web.rewrites (uploads.flatMap fun upload => [upload.podcast, upload.episode])⟩

/-! ## Settings -/

/-- Sets keys to values one after the other. An empty value removes. -/
def assignSettings (userId : Int) (target : Target) :
    List (String × String) → Procedure Reason Unit
  | [] => pure ()
  | (key, value) :: rest => do
    if value = "" then statements.removeSetting userId target key
    else statements.upsertSetting userId target key value
    assignSettings userId target rest

/-- Removes keys one after the other. -/
def removeSettings (userId : Int) (target : Target) : List String → Procedure Reason Unit
  | [] => pure ()
  | key :: rest => do
    statements.removeSetting userId target key
    removeSettings userId target rest

/-- Sets and removes settings that a key of a user names, in the order of their keys. -/
def saveSettings (userName : String) (key : SettingsKey) (assignments : List (String × String))
    (removals : List String) : Procedure Reason (List (String × String)) := do
  statements.check (Store.validateAssignments assignments removals)
  let user ← statements.query (·.loadUser userName)
  let resolved ← statements.query (·.resolveKey user.id key)
  let sorted := assignments.mergeSort fun first second => decide (first.1 ≤ second.1)
  statements.assignSettings user.id resolved.target sorted
  statements.removeSettings user.id resolved.target removals
  statements.query fun store => .ok (store.settingsByColumns user.id resolved.target)

/-! ## Requests -/

/-- Carries out a request of a user, whose podcasts are walked over in the order that is given for
them. -/
def perform (order : List (Entry Podcast) → List (Entry Podcast)) (userName : String) :
    Request → Procedure Reason Answer
  | .createUser password workFactor =>
    .user <$> statements.createUser userName password workFactor
  | .destroyUser => .userDestroyed <$> statements.destroyUser userName
  | .registerDevice device => .registration <$> do
    let user ← statements.query (·.loadUser userName)
    statements.registerDevice user.id device
  | .updateDevice device caption kind =>
    .device <$> statements.updateDevice userName device caption kind
  | .destroyDevice device => .deviceDestroyed <$> statements.destroyDevice userName device
  | .replaceSubscriptions device timestamp urls =>
    .subscriptionUpdate <$> statements.replaceSubscriptions order userName device timestamp urls
  | .changeSubscriptions device timestamp add remove =>
    .subscriptionUpdate <$> statements.changeSubscriptions userName device timestamp add remove
  | .addActions uploads => .actionsAdded <$> statements.addActions userName uploads
  | .saveSettings texts assignments removals => .settings <$> do
    let key ← statements.check (SettingsKey.ofTexts texts)
    statements.saveSettings userName key assignments removals
  -- The others only look at the store.
  | query => .execute fun store => statements.told (store.answer userName query)

end RowStatements

end PodcastLedger
