import PodcastLedger.Episode.Listing

/-!
# Requests

All that a client can ask of the store, in one type. `Store.answer` carries out a request of a user
and gives the store afterwards with the answer; `Store.step` leaves the store as it was when the
request fails, and `Store.Reachable` are the stores that requests lead to.
-/

namespace PodcastLedger

/-- What a user asks for. -/
inductive Request where
  | createUser (password : String) (workFactor : Nat)
  | loadUser
  | destroyUser
  | registerDevice (device : String)
  | updateDevice (device : String) (caption kind : Option String)
  | findDevice (device : String)
  | listDevices
  | destroyDevice (device : String)
  | replaceSubscriptions (device : String) (timestamp : Instant) (urls : List String)
  | changeSubscriptions (device : String) (timestamp : Instant) (add remove : List String)
  | subscriptionChanges (device : String) (since : Option Instant)
  | subscriptions (since : Option Instant)
  | findPodcast (url : String)
  | addActions (uploads : List ActionUpload)
  | listActions (query : ActionQuery)
  | lastAction (podcast : String) (excludeDeleted : Bool)
  | favorites
  | resolveKey (key : KeyTexts)
  | getSettings (key : KeyTexts)
  | saveSettings (key : KeyTexts) (assignments : List (String × String)) (removals : List String)

/-- The answer to a request. -/
inductive Answer where
  | user (user : Entry User)
  | userDestroyed (counts : Store.DestroyedUser)
  | registration (registration : Store.Registration)
  | device (device : Entry Device)
  | deviceFound (device : Option (Entry Device))
  | devices (summaries : List Store.DeviceSummary)
  | deviceDestroyed (counts : Store.DestroyedDevice)
  | subscriptionUpdate (update : SubscriptionUpdate)
  | subscriptionChanges (changes : SubscriptionChanges)
  | urls (urls : List String)
  | podcastFound (podcast : Option (Entry Podcast))
  | actionsAdded (added : ActionsAdded)
  | views (views : List ActionView)
  | view (view : ActionView)
  | key (resolved : ResolvedKey)
  | settings (settings : List (String × String))
  deriving DecidableEq

namespace Store

/-- An operation that changes the store, with its result as an answer. -/
def write {Result : Type} (answer : Result → Answer) (outcome : Except Failure (Store × Result)) :
    Except Failure (Store × Answer) :=
  outcome.map fun (store, result) => (store, answer result)

/-- An operation that leaves the store as it is, with its result as an answer. -/
def read {Result : Type} (store : Store) (answer : Result → Answer)
    (outcome : Except Failure Result) : Except Failure (Store × Answer) :=
  outcome.map fun result => (store, answer result)

/-- Carries out a request of a user. -/
def answer (store : Store) (userName : String) :
    Request → Except Failure (Store × Answer)
  | .createUser password workFactor =>
    write .user (store.createUser userName password workFactor)
  | .loadUser => store.read .user (store.loadUser userName)
  | .destroyUser => write .userDestroyed (store.destroyUser userName)
  | .registerDevice device => write .registration do
    let user ← store.loadUser userName
    store.registerDevice user.id device
  | .updateDevice device caption kind =>
    write .device (store.updateDevice userName device caption kind)
  | .findDevice device => store.read .deviceFound do
    let user ← store.loadUser userName
    store.selectDevice user.id device
  | .listDevices => store.read .devices (store.listDevices userName)
  | .destroyDevice device => write .deviceDestroyed (store.destroyDevice userName device)
  | .replaceSubscriptions device timestamp urls =>
    write .subscriptionUpdate (store.replaceSubscriptions userName device timestamp urls)
  | .changeSubscriptions device timestamp add remove =>
    write .subscriptionUpdate (store.changeSubscriptions userName device timestamp add remove)
  | .subscriptionChanges device since =>
    store.read .subscriptionChanges (store.subscriptionChanges userName device since)
  | .subscriptions since => store.read .urls (store.subscriptions userName since)
  | .findPodcast url => store.read .podcastFound do
    let user ← store.loadUser userName
    store.selectPodcast user.id url
  | .addActions uploads => write .actionsAdded (store.addActions userName uploads)
  | .listActions query => store.read .views (store.listActions userName query)
  | .lastAction podcast excludeDeleted =>
    store.read .view (store.lastAction userName podcast excludeDeleted)
  | .favorites => store.read .views (store.favorites userName)
  | .resolveKey texts => store.read .key do
    let key ← SettingsKey.ofTexts texts
    let user ← store.loadUser userName
    store.resolveKey user.id key
  | .getSettings texts => store.read .settings do
    let key ← SettingsKey.ofTexts texts
    store.getSettings userName key
  | .saveSettings texts assignments removals => write .settings do
    let key ← SettingsKey.ofTexts texts
    store.saveSettings userName key assignments removals

/-- Carries out a request of a user. A request that fails changes nothing. -/
def step (store : Store) (userName : String) (request : Request) :
    Store × Except Failure Answer :=
  match store.answer userName request with
  | .ok (next, answer) => (next, .ok answer)
  | .error failure => (store, .error failure)

/-- Carries out the requests of a session, each with the user who makes it. -/
def run (store : Store) : List (String × Request) → Store × List (Except Failure Answer)
  | [] => (store, [])
  | (userName, request) :: rest =>
    let (next, answer) := store.step userName request
    let (last, answers) := next.run rest
    (last, answer :: answers)

/-- The store is one that requests lead to from the empty one. -/
inductive Reachable : Store → Prop where
  | empty : Reachable .empty
  | step {store : Store} (reachable : Reachable store) (userName : String) (request : Request) :
      Reachable (store.step userName request).1

end Store

end PodcastLedger
