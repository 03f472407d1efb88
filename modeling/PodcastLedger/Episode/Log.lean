import PodcastLedger.Device.Registry
import PodcastLedger.Episode.View
import PodcastLedger.Podcast.Subscriptions

/-!
# The log of episode actions

Uploads append to the log; nothing in it is ever changed. A batch is stored as a whole or not at
all: `ActionUpload.validate` looks at every action first, and `Store.addActions` then adds what an
action mentions for the first time and appends the actions in their order.
-/

namespace PodcastLedger

/-- An episode action as a client sends it. -/
structure ActionUpload where
  action : String
  device : Option String
  episode : String
  guid : Option String
  podcast : String
  position : Option Int
  started : Option Int
  timestamp : Instant
  total : Option Int
  deriving DecidableEq

/-- An episode action that keeps all rules, with its kind read and its addresses in canonical
form. -/
structure ValidAction where
  kind : ActionKind
  device : Option String
  episode : String
  guid : Option String
  podcast : String
  position : Option Int
  started : Option Int
  timestamp : Instant
  total : Option Int
  deriving DecidableEq

namespace ActionUpload

/-- Only an action of kind `play` has measures of playback, and none is negative. -/
def validateField (kind : ActionKind) (field : PlaybackField) (value : Option Int) :
    Except Failure Unit :=
  match value with
  | none => .ok ()
  | some number =>
    if kind ≠ .play then .error (.invalid (.fieldOfOtherAction field))
    else if number < 0 then .error (.invalid (.negativeField field))
    else .ok ()

/-- Reads the kind of an action. -/
def readKind (text : String) : Except Failure ActionKind :=
  match ActionKind.ofText? text with
  | some kind => .ok kind
  | none => .error (.invalid (.unknownActionKind text))

/-- Reads an address; `violation` is what a text breaks that is none. -/
def readUrl (raw : String) (violation : Violation) : Except Failure String :=
  match Web.canonical? raw with
  | some url => .ok url
  | none => .error (.invalid violation)

/-- Validates the name of a device if one is given. -/
def validateDevice (device : Option String) : Except Failure Unit :=
  match device with
  | none => .ok ()
  | some name => validateName "device" name

/-- Checks an action: its kind, its measures, its device, and the addresses of its podcast and its
episode, in this order. -/
def validate (upload : ActionUpload) : Except Failure ValidAction := do
  let kind ← readKind upload.action
  validateField kind .started upload.started
  validateField kind .position upload.position
  validateField kind .total upload.total
  validateDevice upload.device
  let podcast ← readUrl upload.podcast (.invalidPodcastUrl upload.podcast)
  let episode ← readUrl upload.episode (.invalidEpisodeUrl upload.episode)
  .ok
    { kind
      device := upload.device
      episode
      guid := upload.guid
      podcast
      position := upload.position
      started := upload.started
      timestamp := upload.timestamp
      total := upload.total }

end ActionUpload

/-- What an upload of actions stored, and what the client has to change on its side. -/
structure ActionsAdded where
  actions : List (Entry EpisodeAction)
  rewrites : List Web.Rewrite
  deriving DecidableEq

namespace Store

/-- The device that an action names, registered if it is new. -/
def placeDevice (store : Store) (userId : Int) (device : Option String) :
    Except Failure (Store × Option Int) := do
  match device with
  | none => .ok (store, none)
  | some name =>
    let (store, registration) ← store.registerDevice userId name
    .ok (store, some registration.device.id)

/-- Adds what an action mentions for the first time, and gives the row that is to be appended. -/
def placeAction (store : Store) (userId : Int) (action : ValidAction) :
    Except Failure (Store × EpisodeAction) := do
  let (store, deviceId) ← store.placeDevice userId action.device
  let (store, podcast) ← store.insertPodcast userId action.podcast
  let (store, episode) ← store.insertEpisode podcast.id action.episode action.guid
  .ok (store,
    { kind := action.kind
      deviceId
      podcastId := podcast.id
      episodeId := episode.id
      occurredAt := action.timestamp
      started := action.started
      position := action.position
      total := action.total })

/-- Places actions one after the other. -/
def placeActions (store : Store) (userId : Int) :
    List ValidAction → Except Failure (Store × List EpisodeAction)
  | [] => .ok (store, [])
  | action :: actions => do
    let (store, row) ← store.placeAction userId action
    let (store, rows) ← store.placeActions userId actions
    .ok (store, row :: rows)

/-- A row of the log refers to rows that are there, carries a time that can be stored, and has
measures of playback only if its kind is `play`. -/
def AcceptsAction (store : Store) (row : EpisodeAction) : Prop :=
  store.podcasts.Has row.podcastId ∧ store.episodes.Has row.episodeId ∧
    (∀ deviceId ∈ row.deviceId, store.devices.Has deviceId) ∧ row.occurredAt.IsStorable ∧
    (row.kind = .play ∨ (row.started = none ∧ row.position = none ∧ row.total = none))

/-- Whether a row is accepted is looked up in the tables. -/
instance (store : Store) (row : EpisodeAction) : Decidable (store.AcceptsAction row) :=
  inferInstanceAs (Decidable (_ ∧ _))

/-- Appends rows to the log, with their times as the store keeps them. -/
def appendActions (store : Store) : List EpisodeAction → Store × List (Entry EpisodeAction)
  | [] => (store, [])
  | row :: rows =>
    let kept := { row with occurredAt := row.occurredAt.stored }
    let (rest, entries) :=
      { store with actions := store.actions.insert kept }.appendActions rows
    (rest, ⟨store.actions.next, kept⟩ :: entries)

/-- Appends a batch of rows to the log, all or none. -/
def insertActions (store : Store) (rows : List EpisodeAction) :
    Except Failure (Store × List (Entry EpisodeAction)) := do
  require (∀ row ∈ rows, store.AcceptsAction row) .insertActions
  .ok (store.appendActions rows)

/-- Stores a batch of actions of a user. -/
def addActions (store : Store) (userName : String) (uploads : List ActionUpload) :
    Except Failure (Store × ActionsAdded) := do
  let actions ← uploads.mapM ActionUpload.validate
  let user ← store.loadUser userName
  let (store, rows) ← store.placeActions user.id actions
  -- Times are looked at here, after all that is new was added.
  let (store, entries) ← store.insertActions rows
  .ok (store,
    ⟨entries, Web.rewrites (uploads.flatMap fun upload => [upload.podcast, upload.episode])⟩)

end Store

end PodcastLedger
