import Mathlib.Logic.Relation
import PodcastLedger.Proofs.Ledger.Table
import PodcastLedger.Request

/-!
# Writes

What is written to the store on behalf of one user. A `Store.Write` is the insertion, change or
deletion of rows that belong to the user, together with what is known when it is made. Invariants
and frames of whole sessions are proved of a write once, so that no operation is unfolded for them.
-/

namespace PodcastLedger

/-- Every measure of playback that is given belongs to an action of kind `play` and is not
negative. -/
def ActionKind.Allows (kind : ActionKind) (measures : List (Option Int)) : Prop :=
  ∀ measure ∈ measures, ∀ number ∈ measure, kind = .play ∧ 0 ≤ number

/-- The measures of playback of a row of the log. -/
def EpisodeAction.measures (row : EpisodeAction) : List (Option Int) :=
  [row.started, row.position, row.total]

/-- An identifier leaves an episode in its podcast. -/
@[simp] theorem Episode.podcastId_identify (episode : Episode) (guid : Option String) :
    (episode.identify guid).podcastId = episode.podcastId := rfl

/-- A turn leaves a podcast with its user. -/
@[simp] theorem Podcast.userId_turn (podcast : Podcast) (subscribed : Bool) (time : Instant) :
    (podcast.turn subscribed time).userId = podcast.userId := by
  unfold turn
  split <;> rfl

/-- A turn leaves a podcast under its address. -/
@[simp] theorem Podcast.url_turn (podcast : Podcast) (subscribed : Bool) (time : Instant) :
    (podcast.turn subscribed time).url = podcast.url := by
  unfold turn
  split <;> rfl

namespace Store

/-- A device of the user has the id. -/
def HasDevice (store : Store) (userId deviceId : Int) : Prop :=
  ∃ device ∈ store.devices.entries, device.id = deviceId ∧ device.row.userId = userId

/-- A podcast of the user has the id. -/
def HasPodcast (store : Store) (userId podcastId : Int) : Prop :=
  ∃ podcast ∈ store.podcasts.entries, podcast.id = podcastId ∧ podcast.row.userId = userId

/-- An episode of the podcast has the id. -/
def HasEpisode (store : Store) (podcastId episodeId : Int) : Prop :=
  ∃ episode ∈ store.episodes.entries, episode.id = episodeId ∧ episode.row.podcastId = podcastId

/-- The row of the log refers to a podcast of the user, an episode of that podcast, and a device of
the user if it has one. -/
structure Places (store : Store) (userId : Int) (row : EpisodeAction) : Prop where
  podcast : store.HasPodcast userId row.podcastId
  episode : store.HasEpisode row.podcastId row.episodeId
  device : ∀ deviceId ∈ row.deviceId, store.HasDevice userId deviceId

/-- The target is the account or something that belongs to the user. -/
def Owns (store : Store) (userId : Int) : Target → Prop
  | .account => True
  | .device deviceId => store.HasDevice userId deviceId
  | .podcast podcastId => store.HasPodcast userId podcastId
  | .episode podcastId episodeId =>
    store.HasPodcast userId podcastId ∧ store.HasEpisode podcastId episodeId

variable {store next : Store} {userId : Int} {time? : Option Instant}

/-- The device of a target belongs to the user. -/
theorem Owns.device {target : Target} (howns : store.Owns userId target) :
    ∀ deviceId ∈ target.device?, store.HasDevice userId deviceId := by
  intro deviceId hdevice
  cases target with
  | account | podcast | episode => cases hdevice
  | device targetId =>
      cases hdevice
      exact howns

/-- The podcast of a target belongs to the user. -/
theorem Owns.podcast {target : Target} (howns : store.Owns userId target) :
    ∀ podcastId ∈ target.podcast?, store.HasPodcast userId podcastId := by
  intro podcastId hpodcast
  cases target with
  | account | device => cases hpodcast
  | podcast targetId =>
      cases hpodcast
      exact howns
  | episode targetId episodeId =>
      cases hpodcast
      exact howns.1

/-- The episode of a target is one of a podcast of the user. -/
theorem Owns.episode {target : Target} (howns : store.Owns userId target) :
    ∀ episodeId ∈ target.episode?, ∃ podcastId, target.podcast? = some podcastId ∧
      store.HasPodcast userId podcastId ∧ store.HasEpisode podcastId episodeId := by
  intro episodeId hepisode
  cases target with
  | account | device | podcast => cases hepisode
  | episode podcastId targetId =>
      cases hepisode
      exact ⟨podcastId, rfl, howns⟩

/-- A device is destroyed: its actions are detached and its settings deleted before the rows that
still refer to it are dealt with. -/
def withoutDevice (store : Store) (deviceId : Int) : Store :=
  let detached :=
    { store with
      actions :=
        store.actions.modify (fun action => action.row.deviceId == some deviceId)
          fun action => { action with deviceId := none } }
  (detached.deleteSettings fun setting => setting.row.target.device? == some deviceId).deleteDevices
    fun entry => entry.id == deviceId

/-- A podcast is turned by `turnPodcasts`. -/
def isTurned (userId : Int) (selected : String → Bool) (subscribed : Bool)
    (podcast : Entry Podcast) : Bool :=
  podcast.row.userId == userId && selected podcast.row.url && podcast.row.subscribed != subscribed

/-- One write on behalf of a user, by the table that it concerns. A podcast is turned as of the time
`time?` of the request. -/
inductive Write (store : Store) (userId : Int) (time? : Option Instant) : Store → Prop where
  | insertDevice {name : String} (hgiven : name ≠ "") (hbindable : IsBindable name)
      (hnew : store.findDevice? userId name = none) :
      Write store userId time?
        { store with devices := store.devices.insert ⟨userId, name, "", .other⟩ }
  | describeDevice {device : Entry Device} (hdevice : device ∈ store.devices.entries)
      (howner : device.row.userId = userId) (caption : String) (kind : DeviceKind) :
      Write store userId time?
        { store with
          devices := store.devices.modify (fun entry => entry.id == device.id) fun row =>
            { row with caption, kind } }
  | endDevice {device : Entry Device} (hdevice : device ∈ store.devices.entries)
      (howner : device.row.userId = userId) :
      Write store userId time? (store.withoutDevice device.id)
  | insertPodcast {url : String} (hweb : IsWebUrl url)
      (hnew : store.findPodcast? userId url = none) :
      Write store userId time?
        { store with podcasts := store.podcasts.insert (.fresh userId url) }
  | turn {time : Instant} (htime : time? = some time) (selected : String → Bool)
      (subscribed : Bool) :
      Write store userId time?
        { store with
          podcasts := store.podcasts.modify (isTurned userId selected subscribed)
            (·.turn subscribed time.stored) }
  | insertEpisode {podcastId : Int} {url : String} (hpodcast : store.HasPodcast userId podcastId)
      (hnew : store.findEpisode? podcastId url = none) (guid : Option String) :
      Write store userId time?
        { store with episodes := store.episodes.insert ⟨podcastId, url, guid⟩ }
  | identifyEpisode {episode : Entry Episode} (hepisode : episode ∈ store.episodes.entries)
      (hpodcast : store.HasPodcast userId episode.row.podcastId) (guid : Option String) :
      Write store userId time?
        { store with
          episodes :=
            store.episodes.modify (fun entry => entry.id == episode.id) (·.identify guid) }
  | insertAction {row : EpisodeAction} (hplaces : store.Places userId row)
      (hmeasures : row.kind.Allows row.measures) :
      Write store userId time? { store with actions := store.actions.insert row }
  | insertSetting {target : Target} {key : String} (howns : store.Owns userId target)
      (hnew : store.settings.find? (isSetting userId target key) = none) (value : String) :
      Write store userId time?
        { store with settings := store.settings.insert ⟨userId, target, key, value⟩ }
  | changeSetting (target : Target) (key value : String) :
      Write store userId time?
        { store with
          settings := store.settings.modify (fun entry => isSetting userId target key entry.row)
            fun setting => { setting with value } }
  | removeSetting (target : Target) (key : String) :
      Write store userId time?
        (store.deleteSettings fun entry => isSetting userId target key entry.row)

/-- Any number of writes on behalf of a user. -/
def Writes (userId : Int) (time? : Option Instant) : Store → Store → Prop :=
  Relation.ReflTransGen fun store next => store.Write userId time? next

/-- Nothing is written. -/
theorem Writes.refl (store : Store) : Writes userId time? store store :=
  Relation.ReflTransGen.refl

/-- Writes after writes. -/
theorem Writes.trans {middle : Store} (hfirst : Writes userId time? store middle)
    (hrest : Writes userId time? middle next) : Writes userId time? store next :=
  Relation.ReflTransGen.trans hfirst hrest

/-- A single write. -/
theorem Write.writes (hwrite : store.Write userId time? next) : Writes userId time? store next :=
  Relation.ReflTransGen.single hwrite

/-- What belongs to users, and what belongs to podcasts, is there still. -/
structure Keeps (store next : Store) : Prop where
  devices : ∀ {ownerId id}, store.HasDevice ownerId id → next.HasDevice ownerId id
  podcasts : ∀ {ownerId id}, store.HasPodcast ownerId id → next.HasPodcast ownerId id
  episodes : ∀ {podcastId id}, store.HasEpisode podcastId id → next.HasEpisode podcastId id

/-- A new device leaves the others with their users. -/
theorem keeps_insert_device (store : Store) (device : Device) :
    store.Keeps { store with devices := store.devices.insert device } := by
  refine ⟨?_, id, id⟩
  rintro ownerId id ⟨device, hdevice, h⟩
  exact ⟨device, Table.mem_insert.mpr (.inl hdevice), h⟩

/-- Changed devices stay with their users. -/
theorem keeps_modify_devices (store : Store) (condition : Entry Device → Bool)
    {change : Device → Device} (hchange : ∀ row, (change row).userId = row.userId) :
    store.Keeps { store with devices := store.devices.modify condition change } := by
  refine ⟨?_, id, id⟩
  rintro ownerId id ⟨device, hdevice, hid, howner⟩
  refine ⟨_, Table.mem_modify.mpr ⟨device, hdevice, rfl⟩, ?_⟩
  split
  · exact ⟨hid, (hchange device.row).trans howner⟩
  · exact ⟨hid, howner⟩

/-- A new podcast leaves the others with their users. -/
theorem keeps_insert_podcast (store : Store) (podcast : Podcast) :
    store.Keeps { store with podcasts := store.podcasts.insert podcast } := by
  refine ⟨id, ?_, id⟩
  rintro ownerId id ⟨podcast, hpodcast, h⟩
  exact ⟨podcast, Table.mem_insert.mpr (.inl hpodcast), h⟩

/-- Changed podcasts stay with their users. -/
theorem keeps_modify_podcasts (store : Store) (condition : Entry Podcast → Bool)
    {change : Podcast → Podcast} (hchange : ∀ row, (change row).userId = row.userId) :
    store.Keeps { store with podcasts := store.podcasts.modify condition change } := by
  refine ⟨id, ?_, id⟩
  rintro ownerId id ⟨podcast, hpodcast, hid, howner⟩
  refine ⟨_, Table.mem_modify.mpr ⟨podcast, hpodcast, rfl⟩, ?_⟩
  split
  · exact ⟨hid, (hchange podcast.row).trans howner⟩
  · exact ⟨hid, howner⟩

/-- A new episode leaves the others in their podcasts. -/
theorem keeps_insert_episode (store : Store) (episode : Episode) :
    store.Keeps { store with episodes := store.episodes.insert episode } := by
  refine ⟨id, id, ?_⟩
  rintro podcastId id ⟨episode, hepisode, h⟩
  exact ⟨episode, Table.mem_insert.mpr (.inl hepisode), h⟩

/-- Changed episodes stay in their podcasts. -/
theorem keeps_modify_episodes (store : Store) (condition : Entry Episode → Bool)
    {change : Episode → Episode} (hchange : ∀ row, (change row).podcastId = row.podcastId) :
    store.Keeps { store with episodes := store.episodes.modify condition change } := by
  refine ⟨id, id, ?_⟩
  rintro podcastId id ⟨episode, hepisode, hid, hpodcast⟩
  refine ⟨_, Table.mem_modify.mpr ⟨episode, hepisode, rfl⟩, ?_⟩
  split
  · exact ⟨hid, (hchange episode.row).trans hpodcast⟩
  · exact ⟨hid, hpodcast⟩

/-- A row of the log that is in its place stays so. -/
theorem Places.mono {row : EpisodeAction} (hplaces : store.Places userId row)
    (hkeeps : store.Keeps next) : next.Places userId row where
  podcast := hkeeps.podcasts hplaces.podcast
  episode := hkeeps.episodes hplaces.episode
  device deviceId hdevice := hkeeps.devices (hplaces.device deviceId hdevice)

/-- A target that belongs to a user stays so. -/
theorem Owns.mono {target : Target} (howns : store.Owns userId target)
    (hkeeps : store.Keeps next) : next.Owns userId target := by
  cases target with
  | account => exact trivial
  | device deviceId => exact hkeeps.devices howns
  | podcast podcastId => exact hkeeps.podcasts howns
  | episode podcastId episodeId => exact ⟨hkeeps.podcasts howns.1, hkeeps.episodes howns.2⟩

/-- Writes that keep what is there. -/
structure Growth (userId : Int) (time? : Option Instant) (store next : Store) : Prop extends
    store.Keeps next where
  writes : Writes userId time? store next

/-- A store keeps what is there if nothing is written. -/
theorem Growth.refl (store : Store) : Growth userId time? store store :=
  ⟨⟨id, id, id⟩, .refl store⟩

/-- What is there after one growth is there after another. -/
theorem Growth.trans {middle : Store} (hfirst : Growth userId time? store middle)
    (hrest : Growth userId time? middle next) : Growth userId time? store next where
  devices h := hrest.devices (hfirst.devices h)
  podcasts h := hrest.podcasts (hfirst.podcasts h)
  episodes h := hrest.episodes (hfirst.episodes h)
  writes := hfirst.writes.trans hrest.writes

end Store

end PodcastLedger
