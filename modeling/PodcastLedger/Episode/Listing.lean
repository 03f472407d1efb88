import PodcastLedger.Episode.Log
import PodcastLedger.Setting.Values

/-!
# Listings of episode actions

What clients read from the log. `Store.views` joins the rows of the log with the addresses and names
that clients know; `Store.listActions` filters, aggregates, orders and cuts them,
`Store.lastAction` gives the last one of a podcast, and `Store.favorites` the last one of each
episode that is marked as a favorite.
-/

namespace PodcastLedger

/-- Which episode actions a client asks for. Actions of the device named are left out, as are
earlier actions of an episode if only the latest are wanted. -/
structure ActionQuery where
  aggregated : Bool
  device : Option String
  limit : Option Int
  order : SortOrder
  podcast : Option String
  since : Option Instant
  deriving DecidableEq

namespace Store

/-- The view of a row of the log, if it belongs to the user. -/
def view? (store : Store) (userId : Int) (action : Entry EpisodeAction) : Option ActionView := do
  let podcast ← store.podcasts.get? action.row.podcastId
  let episode ← store.episodes.get? action.row.episodeId
  if podcast.row.userId = userId then
    some
      { id := action.id
        episodeId := action.row.episodeId
        action := action.row.kind.name
        device := (action.row.deviceId.bind store.devices.get?).map (·.row.name)
        episode := episode.row.url
        guid := episode.row.guid
        podcast := podcast.row.url
        position := action.row.position
        started := action.row.started
        timestamp := action.row.occurredAt
        total := action.row.total }
  else none

/-- The views of the rows of a user that satisfy a condition, in the order of recording. -/
def views (store : Store) (userId : Int) (condition : EpisodeAction → Bool) : List ActionView :=
  (store.actions.entries.filter fun action => condition action.row).filterMap (store.view? userId)

/-- The device that a query leaves out, which must be known if it names one. -/
def queryDevice (store : Store) (userId : Int) (device : Option String) :
    Except Failure (Option (Entry Device)) := do
  match device with
  | none => .ok none
  | some name =>
    let device ← store.loadDevice userId name
    .ok (some device)

/-- The episode actions of a user that a query asks for. A limit cuts what is ordered, and no limit
is below zero. -/
def listActions (store : Store) (userName : String) (query : ActionQuery) :
    Except Failure (List ActionView) := do
  let user ← store.loadUser userName
  let device ← store.queryDevice user.id query.device
  let podcast ←
    match query.podcast with
    | none => .ok none
    | some raw => (store.selectRawPodcast user.id raw).map some
  match podcast with
  | some none => .ok []
  | _ =>
    requireBound query.since .selectActions
    let found := store.views user.id fun action =>
      device.all (fun device => action.deviceId != some device.id) &&
        podcast.join.all (fun podcast => action.podcastId == podcast.id) &&
        isAfter query.since action.occurredAt
    -- Aggregation sees all that was found before anything is cut off.
    let kept := if query.aggregated then ActionView.latest found else found
    let sorted := ActionView.sort query.order kept
    .ok
      (match query.limit with
      | none => sorted
      | some limit => sorted.take limit.toNat)

/-- The last episode action of a podcast, or the last one that is no deletion. -/
def lastAction (store : Store) (userName podcast : String) (excludeDeleted : Bool) :
    Except Failure ActionView := do
  let user ← store.loadUser userName
  match ← store.selectRawPodcast user.id podcast with
  | none => .error (.noActions podcast)
  | some entry =>
    let found := store.views user.id fun action =>
      action.podcastId == entry.id && !(excludeDeleted && action.kind == .delete)
    match (ActionView.sort .descending found).head? with
    | some view => .ok view
    | none => .error (.noActions podcast)

/-- The key of the setting that marks an episode as a favorite. -/
def favoriteKey : String := "is_favorite"

/-- The setting marks an episode of the user as a favorite. -/
def isFavoriteMark (userId : Int) (setting : Setting) : Bool :=
  setting.userId == userId && setting.target.scope == .episode && setting.key == favoriteKey &&
    setting.value == "true"

/-- The last action of each episode of a user that is marked as a favorite, the latest first. -/
def favorites (store : Store) (userName : String) : Except Failure (List ActionView) := do
  let user ← store.loadUser userName
  let marks := store.settings.entries.filter fun setting => isFavoriteMark user.id setting.row
  let episodes := marks.filterMap fun setting => setting.row.target.episode?
  let found := store.views user.id fun action => episodes.contains action.episodeId
  .ok (ActionView.sort .descending (ActionView.latest found))

end Store

end PodcastLedger
