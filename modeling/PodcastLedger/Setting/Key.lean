import PodcastLedger.Device.Registry
import PodcastLedger.Podcast.Catalog

/-!
# Keys of settings

How a client names the thing whose settings it means. `SettingsKey.ofTexts` reads a key from the
name of a scope and the texts that go with it; `Store.resolveKey` looks up what the key names.
Nothing is created on the way: what is not there is an error.
-/

namespace PodcastLedger

/-- The thing whose settings a client means, as the client names it. -/
inductive SettingsKey where
  | account
  | device (name : String)
  | episode (podcastRaw raw : String)
  | podcast (raw : String)
  deriving DecidableEq, Repr

/-- The texts of a key as a client sends them. -/
structure KeyTexts where
  scope : String
  device : Option String
  podcast : Option String
  episode : Option String
  deriving DecidableEq, Repr

/-- The thing whose settings are meant, as it was found in the store. -/
inductive ResolvedKey where
  | account
  | device (entry : Entry Device)
  | episode (podcastEntry : Entry Podcast) (entry : Entry Episode)
  | podcast (entry : Entry Podcast)
  deriving DecidableEq

namespace SettingsKey

/-- A part of a key that the scope needs, which must be given and not be empty. -/
def requirePart (part : KeyPart) (text : Option String) : Except Failure String :=
  match text with
  | some text => if text = "" then .error (.invalid (.missingKeyPart part)) else .ok text
  | none => .error (.invalid (.missingKeyPart part))

/-- Reads the name of a scope. -/
def readScope (text : String) : Except Failure Scope :=
  match Scope.ofText? text with
  | some scope => .ok scope
  | none => .error (.invalid (.unknownScope text))

/-- Reads a key. Texts that the scope does not need are ignored. -/
def ofTexts (texts : KeyTexts) : Except Failure SettingsKey := do
  match ← readScope texts.scope with
  | .account => .ok .account
  | .device =>
    let device ← requirePart .device texts.device
    .ok (.device device)
  | .episode =>
    let episode ← requirePart .episode texts.episode
    let podcast ← requirePart .podcast texts.podcast
    .ok (.episode podcast episode)
  | .podcast =>
    let podcast ← requirePart .podcast texts.podcast
    .ok (.podcast podcast)

/-- The scope of a key. -/
def scope : SettingsKey → Scope
  | .account => .account
  | .device _ => .device
  | .episode _ _ => .episode
  | .podcast _ => .podcast

end SettingsKey

namespace ResolvedKey

/-- The target of settings that a resolved key stands for. -/
def target : ResolvedKey → Target
  | .account => .account
  | .device entry => .device entry.id
  | .episode podcastEntry entry => .episode podcastEntry.id entry.id
  | .podcast entry => .podcast entry.id

end ResolvedKey

namespace Store

/-- The podcast that a key names. -/
def resolvePodcast (store : Store) (userId : Int) (raw : String) :
    Except Failure (Entry Podcast) := do
  match ← store.selectRawPodcast userId raw with
  | some podcast => .ok podcast
  | none => .error (.unknownPodcast raw)

/-- The episode that a text means if it is read as an address. -/
def selectRawEpisode (store : Store) (podcastId : Int) (raw : String) :
    Except Failure (Option (Entry Episode)) :=
  match Web.canonical? raw with
  | some url => store.selectEpisode podcastId url
  | none => .ok none

/-- The episode that a key names: the text is first read as an address, and taken as it is if that
finds nothing. -/
def resolveEpisode (store : Store) (podcastId : Int) (raw : String) :
    Except Failure (Entry Episode) := do
  match ← store.selectRawEpisode podcastId raw with
  | some episode => .ok episode
  | none =>
    match ← store.selectEpisode podcastId raw with
    | some episode => .ok episode
    | none => .error (.unknownEpisode raw)

/-- Looks up what a key of a user names. -/
def resolveKey (store : Store) (userId : Int) (key : SettingsKey) : Except Failure ResolvedKey :=
  match key with
  | .account => .ok .account
  | .device name => do
    let device ← store.loadDevice userId name
    .ok (.device device)
  | .episode podcast episode => do
    let podcast ← store.resolvePodcast userId podcast
    let episode ← store.resolveEpisode podcast.id episode
    .ok (.episode podcast episode)
  | .podcast podcast => do
    let podcast ← store.resolvePodcast userId podcast
    .ok (.podcast podcast)

end Store

end PodcastLedger
