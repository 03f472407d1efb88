import PodcastLedger.Account.User
import PodcastLedger.Web.Canonical

/-!
# The catalog of podcasts and episodes

Podcasts and episodes are added when they are first mentioned. `Store.insertPodcast` and
`Store.insertEpisode` find or add one by its address. An episode takes the first identifier (GUID)
that is given for it and keeps it; `Store.matchEpisode?` finds an episode by address or, failing
that, by identifier.
-/

namespace PodcastLedger

/-- The text begins like the address of a web page. -/
def IsWebUrl (url : String) : Prop :=
  "http://".toList <+: url.toList ∨ "https://".toList <+: url.toList

/-- An address of a web page shows in its first characters. -/
instance (url : String) : Decidable (IsWebUrl url) :=
  inferInstanceAs (Decidable (_ ∨ _))

namespace Store

/-- The podcast of a user and address. -/
def findPodcast? (store : Store) (userId : Int) (url : String) : Option (Entry Podcast) :=
  store.podcasts.find? fun podcast => podcast.userId == userId && podcast.url == url

/-- Looks for a podcast by any text. -/
def selectPodcast (store : Store) (userId : Int) (url : String) :
    Except Failure (Option (Entry Podcast)) := do
  require (IsBindable url) .selectPodcast
  .ok (store.findPodcast? userId url)

/-- The podcast of a user that a client means by a text. A text that is no address means none. -/
def selectRawPodcast (store : Store) (userId : Int) (raw : String) :
    Except Failure (Option (Entry Podcast)) :=
  match Web.canonical? raw with
  | some url => store.selectPodcast userId url
  | none => .ok none

/-- Finds the podcast of a user and address or adds it, never subscribed to. A podcast has a web
address and an owner. -/
def insertPodcast (store : Store) (userId : Int) (url : String) :
    Except Failure (Store × Entry Podcast) := do
  require (IsBindable url ∧ IsWebUrl url ∧ store.users.Has userId) .insertPodcast
  match store.findPodcast? userId url with
  | some podcast => .ok (store, podcast)
  | none =>
    let podcast := Podcast.fresh userId url
    .ok ({ store with podcasts := store.podcasts.insert podcast }, ⟨store.podcasts.next, podcast⟩)

/-- Finds or adds podcasts one after the other. -/
def insertPodcasts (store : Store) (userId : Int) : List String → Except Failure Store
  | [] => .ok store
  | url :: urls => do
    let (store, _) ← store.insertPodcast userId url
    store.insertPodcasts userId urls

/-- The episode of a podcast and address. -/
def findEpisode? (store : Store) (podcastId : Int) (url : String) : Option (Entry Episode) :=
  store.episodes.find? fun episode => episode.podcastId == podcastId && episode.url == url

/-- The first episode of a podcast with an identifier. -/
def findEpisodeByGuid? (store : Store) (podcastId : Int) (guid : String) :
    Option (Entry Episode) :=
  store.episodes.find? fun episode => episode.podcastId == podcastId && episode.guid == some guid

/-- The episode of a podcast that has the text as its address or, failing that, as its
identifier. -/
def matchEpisode? (store : Store) (podcastId : Int) (text : String) : Option (Entry Episode) :=
  (store.findEpisode? podcastId text).or (store.findEpisodeByGuid? podcastId text)

/-- Looks for an episode by any text. -/
def selectEpisode (store : Store) (podcastId : Int) (text : String) :
    Except Failure (Option (Entry Episode)) := do
  require (IsBindable text) .selectEpisode
  .ok (store.matchEpisode? podcastId text)

/-- Finds the episode of a podcast and address, which takes the identifier if it has none, or adds
it with the identifier. An episode has a podcast. -/
def insertEpisode (store : Store) (podcastId : Int) (url : String) (guid : Option String) :
    Except Failure (Store × Entry Episode) := do
  require (IsBindable url ∧ (∀ text ∈ guid, IsBindable text) ∧ store.podcasts.Has podcastId)
    .insertEpisode
  match store.findEpisode? podcastId url with
  | some episode =>
    .ok ({ store with
        episodes :=
          store.episodes.modify (fun entry => entry.id == episode.id) (·.identify guid) },
      ⟨episode.id, episode.row.identify guid⟩)
  | none =>
    let episode : Episode := ⟨podcastId, url, guid⟩
    .ok ({ store with episodes := store.episodes.insert episode },
      ⟨store.episodes.next, episode⟩)

end Store

end PodcastLedger
