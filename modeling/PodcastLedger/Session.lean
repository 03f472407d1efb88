import PodcastLedger.Request

/-!
# Sessions

Besides requests a session may mention podcasts and episodes by their addresses as they are, which
adds what is mentioned for the first time, and may look at all that a user has at once. As with
requests, what fails changes nothing.
-/

namespace PodcastLedger

/-- A mention of a podcast or an episode by address, which is taken as it is. -/
inductive Mention where
  | podcast (url : String)
  | knownEpisode (podcastUrl text : String)
  | episode (podcastUrl url : String) (guid : Option String)
  deriving DecidableEq, Repr

/-- What a mention found. -/
inductive Mentioned where
  | podcast (entry : Entry Podcast)
  | episode (entry : Option (Entry Episode))
  deriving DecidableEq

/-- All that a user has: devices, subscriptions, the log, favorites, and the settings of the
account. -/
structure Overview where
  devices : List Store.DeviceSummary
  subscriptions : List String
  actions : List ActionView
  favorites : List ActionView
  settings : List (String × String)
  deriving DecidableEq

namespace ActionQuery

/-- The query for the whole log in the order of time. -/
def all : ActionQuery :=
  ⟨false, none, none, .ascending, none, none⟩

end ActionQuery

namespace Store

/-- Carries out a mention. The podcast is added if it is new, an episode only if it is mentioned as
one to add. -/
def mention (store : Store) (userName : String) :
    Mention → Except Failure (Store × Mentioned)
  | .podcast url => do
    let user ← store.loadUser userName
    let (store, podcast) ← store.insertPodcast user.id url
    .ok (store, .podcast podcast)
  | .knownEpisode podcastUrl text => do
    let user ← store.loadUser userName
    let (store, podcast) ← store.insertPodcast user.id podcastUrl
    let episode ← store.selectEpisode podcast.id text
    .ok (store, .episode episode)
  | .episode podcastUrl url guid => do
    let user ← store.loadUser userName
    let (store, podcast) ← store.insertPodcast user.id podcastUrl
    let (store, episode) ← store.insertEpisode podcast.id url guid
    .ok (store, .episode (some episode))

/-- Looks at all that a user has. -/
def overview (store : Store) (userName : String) : Except Failure Overview := do
  let devices ← store.listDevices userName
  let subscriptions ← store.subscriptions userName none
  let actions ← store.listActions userName .all
  let favorites ← store.favorites userName
  let settings ← store.getSettings userName .account
  .ok ⟨devices, subscriptions, actions, favorites, settings⟩

end Store

end PodcastLedger
