import PodcastLedger.Device.Registry
import PodcastLedger.Podcast.Catalog

/-!
# Subscriptions

The subscriptions of an account as its devices see them. A device uploads either its whole list
(`Store.replaceSubscriptions`) or what was added and removed (`Store.changeSubscriptions`). Either
way a podcast is written only if it is turned, so that other devices are told of nothing else:
`Store.subscriptionChanges` gives the podcasts that turned after a time.
-/

namespace PodcastLedger

/-- What an upload of subscriptions changed: the podcasts that were turned, in the order of their
addresses, and what the client has to change on its side. -/
structure SubscriptionUpdate where
  subscribed : List (Entry Podcast)
  unsubscribed : List (Entry Podcast)
  timestamp : Instant
  rewrites : List Web.Rewrite
  deriving DecidableEq

/-- The podcasts that a device has to add and to remove. -/
structure SubscriptionChanges where
  added : List (Entry Podcast)
  removed : List (Entry Podcast)
  deriving DecidableEq

namespace Store

/-- Subscribes a user to podcasts or ends the subscriptions as of a time. Only podcasts that are not
as wanted are turned; they are the result, in the order of their addresses. -/
def turnPodcasts (store : Store) (userId : Int) (selected : String → Bool) (subscribed : Bool)
    (time : Instant) : Except Failure (Store × List (Entry Podcast)) := do
  let isTurned := fun podcast : Entry Podcast =>
    podcast.row.userId == userId && selected podcast.row.url &&
      podcast.row.subscribed != subscribed
  let turn := fun row : Podcast => row.turn subscribed time.stored
  let turned := store.podcasts.entries.filter isTurned
  require (turned = [] ∨ time.IsStorable) .updateSubscription
  .ok ({ store with podcasts := store.podcasts.modify isTurned turn },
    (turned.map fun podcast => ⟨podcast.id, turn podcast.row⟩).mergeSort fun first second =>
      decide (first.row.url ≤ second.row.url))

/-- Makes the given addresses the whole list of subscriptions of a user. -/
def replaceSubscriptions (store : Store) (userName device : String) (timestamp : Instant)
    (raws : List String) : Except Failure (Store × SubscriptionUpdate) := do
  validateName "device" device
  let urls := Web.canonicalAll raws
  let user ← store.loadUser userName
  let (store, _) ← store.registerDevice user.id device
  let (store, unsubscribed) ←
    store.turnPodcasts user.id (fun url => !urls.contains url) false timestamp
  let store ← store.insertPodcasts user.id urls
  let (store, subscribed) ← store.turnPodcasts user.id urls.contains true timestamp
  .ok (store, ⟨subscribed, unsubscribed, timestamp, Web.rewrites raws⟩)

/-- Adds subscriptions of a user and ends others. No address may be in both lists, however it is
written. What was never heard of needs no removal. -/
def changeSubscriptions (store : Store) (userName device : String) (timestamp : Instant)
    (add remove : List String) : Except Failure (Store × SubscriptionUpdate) := do
  validateName "device" device
  let added := Web.canonicalAll add
  let removed := Web.canonicalAll remove
  match added.find? removed.contains with
  | some url => .error (.invalid (.addedAndRemoved url))
  | none =>
    let user ← store.loadUser userName
    let (store, _) ← store.registerDevice user.id device
    -- Only what is added is put into the catalog: an unknown podcast has no subscription to end.
    let store ← store.insertPodcasts user.id added
    let (store, subscribed) ← store.turnPodcasts user.id added.contains true timestamp
    let (store, unsubscribed) ← store.turnPodcasts user.id removed.contains false timestamp
    .ok (store, ⟨subscribed, unsubscribed, timestamp, Web.rewrites (add ++ remove)⟩)

/-- The bound of a query by time: without one everything is after it. -/
def isAfter (since : Option Instant) (time : Instant) : Bool :=
  since.all fun bound => decide (bound.stored < time)

/-- A time that bounds a query must be one that the store can hold. -/
def requireBound (since : Option Instant) (statement : Statement) : Except Failure Unit :=
  require (∀ bound ∈ since, bound.IsStorable) statement

/-- The podcasts of a user that turned after a time, by the side on which they ended up; without a
time all subscriptions, as additions. The device must be known. -/
def subscriptionChanges (store : Store) (userName device : String) (since : Option Instant) :
    Except Failure SubscriptionChanges := do
  let user ← store.loadUser userName
  let _ ← store.loadDevice user.id device
  requireBound since .selectPodcasts
  let concerned := store.podcasts.entries.filter fun podcast =>
    podcast.row.userId == user.id &&
      match since with
      | some _ => isAfter since podcast.row.updatedAt
      | none => podcast.row.subscribed
  let (added, removed) := concerned.partition fun podcast => podcast.row.subscribed
  .ok ⟨added, removed⟩

/-- The addresses of the podcasts that a user is subscribed to, of those subscribed to after a time
if one is given. -/
def subscriptions (store : Store) (userName : String) (since : Option Instant) :
    Except Failure (List String) := do
  let user ← store.loadUser userName
  requireBound since .selectSubscriptions
  let podcasts := store.podcasts.entries.filter fun podcast =>
    podcast.row.userId == user.id && podcast.row.subscribed &&
      isAfter since podcast.row.updatedAt
  .ok (podcasts.map fun podcast => podcast.row.url)

end Store

/-- The time that bounds a query, from a number of seconds since 1970. Zero or less stands for no
bound. -/
def sinceOfUnix (seconds : Int) : Except Failure (Option Instant) :=
  if seconds ≤ 0 then .ok none
  else if seconds ≤ Instant.lastSecond then .ok (some (.ofUnix seconds))
  else .error (.invalid (.sinceOutOfRange seconds))

end PodcastLedger
