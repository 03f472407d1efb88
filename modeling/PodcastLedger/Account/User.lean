import PodcastLedger.Account.Name
import PodcastLedger.Store.Deletion
import PodcastLedger.Text.Base64

/-!
# User accounts

Creating, finding and destroying the accounts of users. A new account needs a name that is free, a
password of eight bytes at least and a work factor that can be computed with, checked in this order
with the free name last. Destroying an account deletes all that belongs to it from the leaves up and
counts the rows.
-/

namespace PodcastLedger

namespace User

/-- The head of a password hash up to its salt: the name of the scheme, its version, and the three
parameters of the hash function. -/
def passwordScheme (user : User) : String :=
  "$rscrypt$0$" ++ Text.base64Triple user.workFactor 8 1

end User

namespace Store

/-- The user of a name. -/
def findUser? (store : Store) (name : String) : Option (Entry User) :=
  store.users.find? fun user => user.name == name

/-- The user of a name, which must be given and known. -/
def loadUser (store : Store) (name : String) : Except Failure (Entry User) := do
  if name = "" then .error (.invalid (.missingName "user"))
  else
    require (IsBindable name) .selectUser
    match store.findUser? name with
    | some user => .ok user
    | none => .error (.unknownUser name)

/-- Adds a user. Names are unique and not empty. -/
def insertUser (store : Store) (user : User) : Except Failure (Store × Entry User) := do
  require (user.name ≠ "" ∧ IsBindable user.name ∧
    ∀ other ∈ store.users.entries, other.row.name ≠ user.name) .insertUser
  .ok ({ store with users := store.users.insert user }, ⟨store.users.next, user⟩)

/-- Creates a user account. -/
def createUser (store : Store) (name password : String) (workFactor : Nat) :
    Except Failure (Store × Entry User) := do
  validateName "user" name
  if password.utf8ByteSize < minPasswordLength then .error (.invalid .shortPassword)
  else if workFactor < minWorkFactor ∨ maxWorkFactor < workFactor then
    .error (.invalid .workFactorOutOfRange)
  else if (store.findUser? name).isSome then .error (.invalid .userNameTaken)
  else store.insertUser ⟨name, false, workFactor⟩

/-- The number of rows of each table that went with a user. -/
structure DestroyedUser where
  devices : Nat
  episodeActions : Nat
  episodes : Nat
  podcasts : Nat
  settings : Nat
  users : Nat
  deriving DecidableEq, Repr

/-- The podcast is one of the user. -/
def ownsPodcast (store : Store) (userId podcastId : Int) : Bool :=
  deletes store.podcasts (fun podcast => podcast.row.userId == userId) podcastId

/-- Destroys the account under an id: settings, actions, episodes, podcasts, devices and at last the
user, so that every row is counted where it is deleted. -/
def destroyAccount (store : Store) (userId : Int) : Store × DestroyedUser :=
  let ofSetting := fun setting : Entry Setting => setting.row.userId == userId
  let ofAction := fun action : Entry EpisodeAction => store.ownsPodcast userId action.row.podcastId
  let ofEpisode := fun episode : Entry Episode => store.ownsPodcast userId episode.row.podcastId
  let ofPodcast := fun podcast : Entry Podcast => podcast.row.userId == userId
  let ofDevice := fun device : Entry Device => device.row.userId == userId
  let ofUser := fun user : Entry User => user.id == userId
  let afterSettings := store.deleteSettings ofSetting
  let afterActions := afterSettings.deleteActions ofAction
  let afterEpisodes := afterActions.deleteEpisodes ofEpisode
  let afterPodcasts := afterEpisodes.deletePodcasts ofPodcast
  let afterDevices := afterPodcasts.deleteDevices ofDevice
  (afterDevices.deleteUsers ofUser,
    { settings := store.settings.entries.countP ofSetting
      episodeActions := afterSettings.actions.entries.countP ofAction
      episodes := afterActions.episodes.entries.countP ofEpisode
      podcasts := afterEpisodes.podcasts.entries.countP ofPodcast
      devices := afterPodcasts.devices.entries.countP ofDevice
      users := afterDevices.users.entries.countP ofUser })

/-- Destroys the account of a user. -/
def destroyUser (store : Store) (name : String) : Except Failure (Store × DestroyedUser) := do
  let user ← store.loadUser name
  .ok (store.destroyAccount user.id)

end Store

end PodcastLedger
