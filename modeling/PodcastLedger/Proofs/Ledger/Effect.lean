import PodcastLedger.Proofs.Ledger.Table
import PodcastLedger.Proofs.Ledger.Write
import PodcastLedger.Proofs.Outcome

/-!
# Effects of requests

What requests do to the store. `Store.step_effect` says that a step of a session changes nothing,
creates an account, destroys one, or makes writes on behalf of the user who asks. It is put together
from one statement about each operation.
-/

namespace PodcastLedger

/-- The time of a request that changes subscriptions. -/
def Request.time? : Request → Option Instant
  | .replaceSubscriptions _ timestamp _ => some timestamp
  | .changeSubscriptions _ timestamp _ _ => some timestamp
  | _ => none

namespace Store

/-- What a successful request of a user does to the store. -/
inductive Effect (store : Store) (name : String) : Request → Store → Prop where
  | create {user : User} {password : String} {workFactor : Nat} (hname : user.name = name)
      (hgiven : name ≠ "") (hbindable : IsBindable name) (hnew : store.findUser? name = none) :
      Effect store name (.createUser password workFactor)
        { store with users := store.users.insert user }
  | destroy {user : Entry User} (huser : store.findUser? name = some user) :
      Effect store name .destroyUser (store.destroyAccount user.id).1
  | nothing (request : Request) : Effect store name request store
  | writes {user : Entry User} {request : Request} {next : Store}
      (huser : store.findUser? name = some user)
      (hwrites : Writes user.id request.time? store next) : Effect store name request next

/-! ## Lookups and insertions -/

variable {store next : Store} {userId : Int} {time? : Option Instant}

/-- A user is loaded by a name that is given and known. -/
theorem load_user_ok {name : String} {user : Entry User} (h : store.loadUser name = .ok user) :
    name ≠ "" ∧ IsBindable name ∧ store.findUser? name = some user := by
  unfold loadUser at h
  split at h
  · cases h
  · next hgiven =>
      simp only [bind_eq_ok_iff, require_eq_ok_iff] at h
      obtain ⟨_, hbindable, h⟩ := h
      split at h
      · next found hfound =>
          cases h
          exact ⟨hgiven, hbindable, hfound⟩
      · cases h

/-- A user is found among the accounts only. -/
theorem find_user_of_users_eq {other : Store} (husers : other.users = store.users)
    (name : String) : other.findUser? name = store.findUser? name := by
  unfold findUser?
  rw [husers]

/-- A user is loaded from the accounts only. -/
theorem load_user_of_users_eq {other : Store} (husers : other.users = store.users)
    (name : String) : other.loadUser name = store.loadUser name := by
  unfold loadUser
  rw [find_user_of_users_eq husers]

/-- A user who is found is in the table, by the name looked for. -/
theorem mem_of_find_user {name : String} {user : Entry User}
    (hfind : store.findUser? name = some user) :
    user ∈ store.users.entries ∧ user.row.name = name := by
  simpa using Table.mem_of_find hfind

/-- A device that is found is one of the user, by the name looked for. -/
theorem mem_of_find_device {name : String} {device : Entry Device}
    (hfind : store.findDevice? userId name = some device) :
    device ∈ store.devices.entries ∧ device.row.userId = userId ∧ device.row.name = name := by
  simpa using Table.mem_of_find hfind

/-- A podcast that is found is one of the user, at the address looked for. -/
theorem mem_of_find_podcast {url : String} {podcast : Entry Podcast}
    (hfind : store.findPodcast? userId url = some podcast) :
    podcast ∈ store.podcasts.entries ∧ podcast.row.userId = userId ∧ podcast.row.url = url := by
  simpa using Table.mem_of_find hfind

/-- An episode that is found is one of the podcast, at the address looked for. -/
theorem mem_of_find_episode {podcastId : Int} {url : String} {episode : Entry Episode}
    (hfind : store.findEpisode? podcastId url = some episode) :
    episode ∈ store.episodes.entries ∧ episode.row.podcastId = podcastId ∧
      episode.row.url = url := by
  simpa using Table.mem_of_find hfind

/-- If no user is found by a name, none has it. -/
theorem name_ne_of_find_user {name : String} (hnone : store.findUser? name = none) :
    ∀ other ∈ store.users.entries, other.row.name ≠ name := fun other hmem => by
  simpa using Table.find_eq_none_iff.mp hnone other hmem

/-- If no device of a user is found by a name, none has it. -/
theorem key_ne_of_find_device {name : String} (hnone : store.findDevice? userId name = none) :
    ∀ other ∈ store.devices.entries, (other.row.userId, other.row.name) ≠ (userId, name) :=
  fun other hmem => by simpa using Table.find_eq_none_iff.mp hnone other hmem

/-- If no podcast of a user is found at an address, none is there. -/
theorem key_ne_of_find_podcast {url : String} (hnone : store.findPodcast? userId url = none) :
    ∀ other ∈ store.podcasts.entries, (other.row.userId, other.row.url) ≠ (userId, url) :=
  fun other hmem => by simpa using Table.find_eq_none_iff.mp hnone other hmem

/-- If no episode of a podcast is found at an address, none is there. -/
theorem key_ne_of_find_episode {podcastId : Int} {url : String}
    (hnone : store.findEpisode? podcastId url = none) :
    ∀ other ∈ store.episodes.entries,
      (other.row.podcastId, other.row.url) ≠ (podcastId, url) :=
  fun other hmem => by simpa using Table.find_eq_none_iff.mp hnone other hmem

/-- A device that is loaded is one of the user. -/
theorem load_device_ok {name : String} {device : Entry Device}
    (h : store.loadDevice userId name = .ok device) :
    store.findDevice? userId name = some device := by
  simp only [loadDevice, selectDevice, bind_eq_ok_iff, require_eq_ok_iff] at h
  obtain ⟨found?, ⟨_, _, hfound⟩, h⟩ := h
  cases hfound
  split at h
  · next found hfound =>
      cases h
      exact hfound
  · cases h

/-- After a device was added, the user has it. -/
theorem insert_device_ok {name : String} {registration : Registration}
    (h : store.insertDevice userId name = .ok (next, registration)) :
    Growth userId time? store next ∧ registration.device ∈ next.devices.entries ∧
      registration.device.row.userId = userId := by
  simp only [insertDevice, bind_eq_ok_iff, require_eq_ok_iff] at h
  obtain ⟨_, ⟨hgiven, hbindable, _⟩, h⟩ := h
  split at h
  · next device hfound =>
      cases h
      obtain ⟨hdevice, howner, _⟩ := mem_of_find_device hfound
      exact ⟨.refl store, hdevice, howner⟩
  · next hnew =>
      cases h
      exact ⟨⟨keeps_insert_device store _, (Write.insertDevice hgiven hbindable hnew).writes⟩,
        Table.mem_insert.mpr (.inr rfl), rfl⟩

/-- After a device was registered, the user has it. -/
theorem register_device_ok {name : String} {registration : Registration}
    (h : store.registerDevice userId name = .ok (next, registration)) :
    Growth userId time? store next ∧ registration.device ∈ next.devices.entries ∧
      registration.device.row.userId = userId := by
  simp only [registerDevice, bind_eq_ok_iff] at h
  obtain ⟨_, _, h⟩ := h
  exact insert_device_ok h

/-- After a podcast was added, the user has it. -/
theorem insert_podcast_ok {url : String} {podcast : Entry Podcast}
    (h : store.insertPodcast userId url = .ok (next, podcast)) :
    Growth userId time? store next ∧ next.HasPodcast userId podcast.id := by
  simp only [insertPodcast, bind_eq_ok_iff, require_eq_ok_iff] at h
  obtain ⟨_, ⟨_, hweb, _⟩, h⟩ := h
  split at h
  · next found hfound =>
      cases h
      obtain ⟨hpodcast, howner, _⟩ := mem_of_find_podcast hfound
      exact ⟨.refl store, podcast, hpodcast, rfl, howner⟩
  · next hnew =>
      cases h
      exact ⟨⟨keeps_insert_podcast store _, (Write.insertPodcast hweb hnew).writes⟩,
        ⟨store.podcasts.next, .fresh userId url⟩, Table.mem_insert.mpr (.inr rfl), rfl, rfl⟩

/-- Adding podcasts one after the other only adds. -/
theorem insert_podcasts_ok {urls : List String} (h : store.insertPodcasts userId urls = .ok next) :
    Growth userId time? store next := by
  induction urls generalizing store with
  | nil =>
      cases h
      exact .refl _
  | cons url urls ih =>
      simp only [insertPodcasts, bind_eq_ok_iff] at h
      obtain ⟨⟨middle, podcast⟩, hinsert, h⟩ := h
      exact (insert_podcast_ok hinsert).1.trans (ih h)

/-- After an episode was added to a podcast of the user, the podcast has it. -/
theorem insert_episode_ok {podcastId : Int} {url : String} {guid : Option String}
    {episode : Entry Episode} (hpodcast : store.HasPodcast userId podcastId)
    (h : store.insertEpisode podcastId url guid = .ok (next, episode)) :
    Growth userId time? store next ∧ next.HasEpisode podcastId episode.id := by
  simp only [insertEpisode, bind_eq_ok_iff, require_eq_ok_iff] at h
  obtain ⟨_, _, h⟩ := h
  split at h
  · next found hfound =>
      cases h
      obtain ⟨hepisode, hof, _⟩ := mem_of_find_episode hfound
      have hkeeps := keeps_modify_episodes store (fun entry => entry.id == found.id)
        fun row => Episode.podcastId_identify row guid
      exact ⟨⟨hkeeps, (Write.identifyEpisode hepisode (hof ▸ hpodcast) guid).writes⟩,
        hkeeps.episodes ⟨found, hepisode, rfl, hof⟩⟩
  · next hnew =>
      cases h
      exact ⟨⟨keeps_insert_episode store _, (Write.insertEpisode hpodcast hnew guid).writes⟩,
        ⟨store.episodes.next, ⟨podcastId, url, guid⟩⟩, Table.mem_insert.mpr (.inr rfl), rfl, rfl⟩

/-- Turning podcasts is a write as of the time given. -/
theorem turn_podcasts_ok {selected : String → Bool} {subscribed : Bool} {time : Instant}
    {turned : List (Entry Podcast)}
    (h : store.turnPodcasts userId selected subscribed time = .ok (next, turned)) :
    Writes userId (some time) store next := by
  simp only [turnPodcasts, bind_eq_ok_iff] at h
  obtain ⟨_, _, h⟩ := h
  cases h
  exact (Write.turn rfl selected subscribed).writes

/-! ## The log -/

/-- A measure that passes validation is not negative and belongs to an action of kind `play`. -/
theorem validate_field_ok {kind : ActionKind} {field : PlaybackField} {measure : Option Int}
    {done : Unit} (h : ActionUpload.validateField kind field measure = .ok done) :
    kind.Allows [measure] := by
  intro given hgiven number hnumber
  obtain rfl := List.mem_singleton.mp hgiven
  obtain rfl : given = some number := hnumber
  simp only [ActionUpload.validateField] at h
  split at h
  · cases h
  · next hplay =>
      split at h
      · cases h
      · next hnonneg => exact ⟨Decidable.not_not.mp hplay, Int.not_lt.mp hnonneg⟩

/-- The measures of an action that passes validation are allowed. -/
theorem validate_ok {upload : ActionUpload} {action : ValidAction}
    (h : upload.validate = .ok action) :
    action.kind.Allows [action.started, action.position, action.total] := by
  simp only [ActionUpload.validate, bind_eq_ok_iff] at h
  obtain ⟨kind, _, _, hstarted, _, hposition, _, htotal, _, _, podcast, _, episode, _, h⟩ := h
  cases h
  intro measure hmeasure
  simp only [List.mem_cons, List.not_mem_nil, or_false] at hmeasure
  rcases hmeasure with rfl | rfl | rfl
  · exact validate_field_ok hstarted _ (List.mem_singleton.mpr rfl)
  · exact validate_field_ok hposition _ (List.mem_singleton.mpr rfl)
  · exact validate_field_ok htotal _ (List.mem_singleton.mpr rfl)

/-- The device that an action names is one of the user once it is in its place. -/
theorem place_device_ok {device : Option String} {deviceId : Option Int}
    (h : store.placeDevice userId device = .ok (next, deviceId)) :
    Growth userId time? store next ∧ ∀ id ∈ deviceId, next.HasDevice userId id := by
  cases device with
  | none =>
      cases h
      exact ⟨.refl store, nofun⟩
  | some name =>
      simp only [placeDevice, bind_eq_ok_iff] at h
      obtain ⟨⟨middle, registration⟩, hregister, h⟩ := h
      cases h
      obtain ⟨hgrowth, hdevice, howner⟩ := register_device_ok hregister
      refine ⟨hgrowth, ?_⟩
      rintro id hid
      obtain rfl := Option.some.inj hid
      exact ⟨registration.device, hdevice, rfl, howner⟩

/-- The row for an action is in its place, and keeps the kind and the measures. -/
theorem place_action_ok {action : ValidAction} {row : EpisodeAction}
    (h : store.placeAction userId action = .ok (next, row)) :
    Growth userId time? store next ∧ next.Places userId row ∧ row.kind = action.kind ∧
      row.measures = [action.started, action.position, action.total] := by
  simp only [placeAction, bind_eq_ok_iff] at h
  obtain ⟨⟨afterDevice, deviceId⟩, hdevice, ⟨afterPodcast, podcast⟩, hpodcast,
    ⟨afterEpisode, episode⟩, hepisode, h⟩ := h
  cases h
  obtain ⟨hgrowDevice, hhasDevice⟩ := place_device_ok hdevice
  obtain ⟨hgrowPodcast, hhasPodcast⟩ := insert_podcast_ok hpodcast
  obtain ⟨hgrowEpisode, hhasEpisode⟩ := insert_episode_ok hhasPodcast hepisode
  refine ⟨(hgrowDevice.trans hgrowPodcast).trans hgrowEpisode, ⟨?_, hhasEpisode, ?_⟩, rfl, rfl⟩
  · exact hgrowEpisode.podcasts hhasPodcast
  · intro id hid
    exact hgrowEpisode.devices (hgrowPodcast.devices (hhasDevice id hid))

/-- The rows for a batch of actions are in their places after all of them were placed. -/
theorem place_actions_ok {actions : List ValidAction} {rows : List EpisodeAction}
    (hallowed : ∀ action ∈ actions,
      action.kind.Allows [action.started, action.position, action.total])
    (h : store.placeActions userId actions = .ok (next, rows)) :
    Growth userId time? store next ∧
      ∀ row ∈ rows, next.Places userId row ∧ row.kind.Allows row.measures := by
  induction actions generalizing store next rows with
  | nil =>
      cases h
      exact ⟨.refl _, List.forall_mem_nil _⟩
  | cons action actions ih =>
      simp only [placeActions, bind_eq_ok_iff] at h
      obtain ⟨⟨middle, row⟩, hrow, ⟨last, others⟩, hothers, h⟩ := h
      cases h
      obtain ⟨hgrowth, hplaces, hkind, hmeasures⟩ := place_action_ok hrow
      obtain ⟨hrest, hplaced⟩ := ih (fun other hmem => hallowed other (.tail _ hmem)) hothers
      refine ⟨hgrowth.trans hrest,
        List.forall_mem_cons.mpr ⟨⟨hplaces.mono hrest.toKeeps, ?_⟩, hplaced⟩⟩
      rw [hkind, hmeasures]
      exact hallowed action List.mem_cons_self

/-- Appending rows that are in their places makes a write for each. -/
theorem append_actions_writes {rows : List EpisodeAction}
    (hrows : ∀ row ∈ rows, store.Places userId row ∧ row.kind.Allows row.measures) :
    Writes userId time? store (store.appendActions rows).1 := by
  induction rows generalizing store with
  | nil => exact .refl _
  | cons row rows ih =>
      obtain ⟨⟨hplaces, hmeasures⟩, hrest⟩ := List.forall_mem_cons.mp hrows
      let kept := { row with occurredAt := row.occurredAt.stored }
      have hkept : store.Places userId kept := ⟨hplaces.podcast, hplaces.episode, hplaces.device⟩
      have hwrite : Writes userId time? store { store with actions := store.actions.insert kept } :=
        (Write.insertAction hkept hmeasures).writes
      refine hwrite.trans (ih fun other hmem => ?_)
      obtain ⟨hother, hothers⟩ := hrest other hmem
      exact ⟨⟨hother.podcast, hother.episode, hother.device⟩, hothers⟩

/-- Every action of a list that is validated as a whole passes validation. -/
theorem validate_all_ok {uploads : List ActionUpload} {actions : List ValidAction}
    (h : uploads.mapM ActionUpload.validate = .ok actions) :
    ∀ action ∈ actions, ∃ upload ∈ uploads, upload.validate = .ok action := by
  induction uploads generalizing actions with
  | nil =>
      cases h
      exact List.forall_mem_nil _
  | cons upload uploads ih =>
      rw [List.mapM_cons] at h
      simp only [bind_eq_ok_iff] at h
      obtain ⟨first, hfirst, rest, hrest, h⟩ := h
      cases h
      refine List.forall_mem_cons.mpr ⟨⟨upload, List.mem_cons_self, hfirst⟩, fun action hmem => ?_⟩
      obtain ⟨other, hother, hvalid⟩ := ih hrest action hmem
      exact ⟨other, List.mem_cons_of_mem _ hother, hvalid⟩

/-- A batch of actions makes writes on behalf of the user who sends it. -/
theorem add_actions_ok {name : String} {uploads : List ActionUpload} {added : ActionsAdded}
    (h : store.addActions name uploads = .ok (next, added)) :
    ∃ user, store.findUser? name = some user ∧ Writes user.id time? store next := by
  simp only [addActions, bind_eq_ok_iff] at h
  obtain ⟨actions, hvalid, user, huser, ⟨middle, rows⟩, hplace, ⟨last, entries⟩, hinsert, h⟩ := h
  cases h
  have hallowed : ∀ action ∈ actions,
      action.kind.Allows [action.started, action.position, action.total] := by
    intro action hmem
    obtain ⟨upload, _, hupload⟩ := validate_all_ok hvalid action hmem
    exact validate_ok hupload
  obtain ⟨hgrowth, hplaced⟩ := place_actions_ok hallowed hplace
  simp only [insertActions, bind_eq_ok_iff] at hinsert
  obtain ⟨_, _, hinsert⟩ := hinsert
  have hwrites : Writes user.id time? middle (middle.appendActions rows).1 :=
    append_actions_writes hplaced
  rw [Except.ok.inj hinsert] at hwrites
  exact ⟨user, (load_user_ok huser).2.2, hgrowth.writes.trans hwrites⟩

/-! ## Settings -/

/-- A podcast that is selected by what a client sent is one of the user. -/
theorem select_raw_podcast_ok {raw : String} {podcast? : Option (Entry Podcast)}
    (h : store.selectRawPodcast userId raw = .ok podcast?) :
    ∀ podcast ∈ podcast?, podcast ∈ store.podcasts.entries ∧ podcast.row.userId = userId := by
  unfold selectRawPodcast at h
  split at h
  · next url =>
      simp only [selectPodcast, bind_eq_ok_iff] at h
      obtain ⟨_, _, h⟩ := h
      cases h
      intro podcast hfind
      obtain ⟨hmem, howner, _⟩ := mem_of_find_podcast hfind
      exact ⟨hmem, howner⟩
  · cases h
    intro podcast hnone
    cases hnone

/-- The podcast of a key is one of the user. -/
theorem resolve_podcast_ok {raw : String} {podcast : Entry Podcast}
    (h : store.resolvePodcast userId raw = .ok podcast) :
    podcast ∈ store.podcasts.entries ∧ podcast.row.userId = userId := by
  simp only [resolvePodcast, bind_eq_ok_iff] at h
  obtain ⟨podcast?, hselect, h⟩ := h
  split at h
  · cases h
    exact select_raw_podcast_ok hselect _ rfl
  · cases h

/-- An episode that matches a text is one of the podcast. -/
theorem match_episode_mem {podcastId : Int} {text : String} {episode : Entry Episode}
    (h : store.matchEpisode? podcastId text = some episode) :
    episode ∈ store.episodes.entries ∧ episode.row.podcastId = podcastId := by
  rcases Option.or_eq_some_iff.mp h with hurl | ⟨_, hguid⟩
  · obtain ⟨hmem, hpodcast, _⟩ := mem_of_find_episode hurl
    exact ⟨hmem, hpodcast⟩
  · obtain ⟨hmem, hcondition⟩ := Table.mem_of_find hguid
    simp only [Bool.and_eq_true, beq_iff_eq] at hcondition
    exact ⟨hmem, hcondition.1⟩

/-- An episode that is selected by a text is one of the podcast. -/
theorem select_episode_ok {podcastId : Int} {text : String} {episode? : Option (Entry Episode)}
    (h : store.selectEpisode podcastId text = .ok episode?) :
    ∀ episode ∈ episode?,
      episode ∈ store.episodes.entries ∧ episode.row.podcastId = podcastId := by
  simp only [selectEpisode, bind_eq_ok_iff] at h
  obtain ⟨_, _, h⟩ := h
  cases h
  exact fun episode hmatch => match_episode_mem hmatch

/-- The episode of a key is one of the podcast. -/
theorem resolve_episode_ok {podcastId : Int} {raw : String} {episode : Entry Episode}
    (h : store.resolveEpisode podcastId raw = .ok episode) :
    episode ∈ store.episodes.entries ∧ episode.row.podcastId = podcastId := by
  simp only [resolveEpisode, bind_eq_ok_iff] at h
  obtain ⟨first?, hfirst, h⟩ := h
  split at h
  · cases h
    unfold selectRawEpisode at hfirst
    split at hfirst
    · exact select_episode_ok hfirst _ rfl
    · cases hfirst
  · simp only [bind_eq_ok_iff] at h
    obtain ⟨second?, hsecond, h⟩ := h
    split at h
    · cases h
      exact select_episode_ok hsecond _ rfl
    · cases h

/-- What a key stands for belongs to the user. -/
theorem resolve_key_ok {key : SettingsKey} {resolved : ResolvedKey}
    (h : store.resolveKey userId key = .ok resolved) : store.Owns userId resolved.target := by
  cases key with
  | account =>
      cases h
      exact trivial
  | device name =>
      simp only [resolveKey, bind_eq_ok_iff] at h
      obtain ⟨device, hload, h⟩ := h
      cases h
      obtain ⟨hdevice, howner, _⟩ := mem_of_find_device (load_device_ok hload)
      exact ⟨device, hdevice, rfl, howner⟩
  | podcast raw =>
      simp only [resolveKey, bind_eq_ok_iff] at h
      obtain ⟨podcast, hresolve, h⟩ := h
      cases h
      obtain ⟨hpodcast, howner⟩ := resolve_podcast_ok hresolve
      exact ⟨podcast, hpodcast, rfl, howner⟩
  | episode podcastRaw raw =>
      simp only [resolveKey, bind_eq_ok_iff] at h
      obtain ⟨podcast, hresolve, episode, hepisode, h⟩ := h
      cases h
      obtain ⟨hpodcast, howner⟩ := resolve_podcast_ok hresolve
      obtain ⟨hmem, hof⟩ := resolve_episode_ok hepisode
      exact ⟨⟨podcast, hpodcast, rfl, howner⟩, episode, hmem, rfl, hof⟩

/-- Writes to the settings of a target leave what the target belongs to as it is. -/
structure SettingWrites (userId : Int) (time? : Option Instant) (target : Target)
    (store next : Store) : Prop where
  writes : Writes userId time? store next
  owns : store.Owns userId target → next.Owns userId target

variable {target : Target}

/-- No writes at all are writes to the settings of any target. -/
theorem SettingWrites.refl (store : Store) : SettingWrites userId time? target store store :=
  ⟨.refl store, id⟩

/-- Writes to the settings of a target may follow others. -/
theorem SettingWrites.trans {middle : Store}
    (hfirst : SettingWrites userId time? target store middle)
    (hrest : SettingWrites userId time? target middle next) :
    SettingWrites userId time? target store next :=
  ⟨hfirst.writes.trans hrest.writes, hrest.owns ∘ hfirst.owns⟩

/-- What belongs to a user does not depend on the settings. -/
theorem owns_with_settings (settings : Table Setting) :
    Owns { store with settings } userId target ↔ store.Owns userId target := by
  cases target <;> exact Iff.rfl

/-- Giving a setting a value changes the setting or adds it. -/
theorem upsert_setting_ok {key value : String} (howns : store.Owns userId target)
    (h : store.upsertSetting userId target key value = .ok next) :
    SettingWrites userId time? target store next := by
  simp only [upsertSetting, bind_eq_ok_iff] at h
  obtain ⟨_, _, h⟩ := h
  split at h
  · cases h
    exact ⟨(Write.changeSetting target key value).writes, (owns_with_settings _).mpr⟩
  · next hnew =>
      cases h
      exact ⟨(Write.insertSetting howns hnew value).writes, (owns_with_settings _).mpr⟩

/-- Removing a setting is one write. -/
theorem remove_setting_ok {key : String}
    (h : store.removeSetting userId target key = .ok next) :
    SettingWrites userId time? target store next := by
  simp only [removeSetting, bind_eq_ok_iff] at h
  obtain ⟨_, _, h⟩ := h
  cases h
  exact ⟨(Write.removeSetting target key).writes, (owns_with_settings _).mpr⟩

/-- Assigning values to keys makes a write for each. -/
theorem assign_settings_ok {assignments : List (String × String)}
    (howns : store.Owns userId target)
    (h : store.assignSettings userId target assignments = .ok next) :
    SettingWrites userId time? target store next := by
  induction assignments generalizing store with
  | nil =>
      cases h
      exact .refl _
  | cons assignment rest ih =>
      obtain ⟨key, value⟩ := assignment
      unfold assignSettings at h
      split at h
      · obtain ⟨middle, hfirst, h⟩ := bind_eq_ok_iff.mp h
        have hwrites : SettingWrites userId time? target store middle := remove_setting_ok hfirst
        exact hwrites.trans (ih (hwrites.owns howns) h)
      · obtain ⟨middle, hfirst, h⟩ := bind_eq_ok_iff.mp h
        have hwrites : SettingWrites userId time? target store middle :=
          upsert_setting_ok howns hfirst
        exact hwrites.trans (ih (hwrites.owns howns) h)

/-- Removing keys makes a write for each. -/
theorem remove_settings_ok {keys : List String}
    (h : store.removeSettings userId target keys = .ok next) :
    SettingWrites userId time? target store next := by
  induction keys generalizing store with
  | nil =>
      cases h
      exact .refl _
  | cons key rest ih =>
      simp only [removeSettings, bind_eq_ok_iff] at h
      obtain ⟨middle, hfirst, h⟩ := h
      exact (remove_setting_ok hfirst).trans (ih h)

/-- Saving settings makes writes on behalf of the user. -/
theorem save_settings_ok {name : String} {key : SettingsKey}
    {assignments : List (String × String)} {removals : List String}
    {values : List (String × String)}
    (h : store.saveSettings name key assignments removals = .ok (next, values)) :
    ∃ user, store.findUser? name = some user ∧ Writes user.id time? store next := by
  simp only [saveSettings, bind_eq_ok_iff] at h
  obtain ⟨_, _, user, huser, resolved, hresolve, assigned, hassign, removed, hremove, h⟩ := h
  cases h
  have hassigned : SettingWrites user.id time? resolved.target store assigned :=
    assign_settings_ok (resolve_key_ok hresolve) hassign
  exact ⟨user, (load_user_ok huser).2.2, (hassigned.trans (remove_settings_ok hremove)).writes⟩

/-! ## Subscriptions, devices and accounts -/

/-- Replacing the subscriptions makes writes as of the time of the upload. -/
theorem replace_subscriptions_ok {name device : String} {timestamp : Instant}
    {raws : List String} {update : SubscriptionUpdate}
    (h : store.replaceSubscriptions name device timestamp raws = .ok (next, update)) :
    ∃ user, store.findUser? name = some user ∧ Writes user.id (some timestamp) store next := by
  simp only [replaceSubscriptions, bind_eq_ok_iff] at h
  obtain ⟨_, _, user, huser, ⟨registered, _⟩, hregister, ⟨ended, _⟩, hend, added, hadd,
    ⟨last, _⟩, hturn, h⟩ := h
  cases h
  have hregistered : Growth user.id (some timestamp) store registered :=
    (register_device_ok hregister).1
  have hadded : Growth user.id (some timestamp) ended added := insert_podcasts_ok hadd
  exact ⟨user, (load_user_ok huser).2.2,
    ((hregistered.writes.trans (turn_podcasts_ok hend)).trans hadded.writes).trans
      (turn_podcasts_ok hturn)⟩

/-- Changing the subscriptions makes writes as of the time of the upload. -/
theorem change_subscriptions_ok {name device : String} {timestamp : Instant}
    {add remove : List String} {update : SubscriptionUpdate}
    (h : store.changeSubscriptions name device timestamp add remove = .ok (next, update)) :
    ∃ user, store.findUser? name = some user ∧ Writes user.id (some timestamp) store next := by
  simp only [changeSubscriptions, bind_eq_ok_iff] at h
  obtain ⟨_, _, h⟩ := h
  split at h
  · cases h
  · simp only [bind_eq_ok_iff] at h
    obtain ⟨user, huser, ⟨registered, _⟩, hregister, added, hadd, ⟨turned, _⟩, hturn,
      ⟨last, _⟩, hend, h⟩ := h
    cases h
    have hregistered : Growth user.id (some timestamp) store registered :=
      (register_device_ok hregister).1
    have hadded : Growth user.id (some timestamp) registered added := insert_podcasts_ok hadd
    exact ⟨user, (load_user_ok huser).2.2,
      ((hregistered.trans hadded).writes.trans (turn_podcasts_ok hturn)).trans
        (turn_podcasts_ok hend)⟩

/-- Updating a device registers it and describes it. -/
theorem update_device_ok {name device : String} {caption kind : Option String}
    {updated : Entry Device}
    (h : store.updateDevice name device caption kind = .ok (next, updated)) :
    ∃ user, store.findUser? name = some user ∧ Writes user.id time? store next := by
  simp only [updateDevice, bind_eq_ok_iff] at h
  obtain ⟨_, _, _, _, user, huser, ⟨registered, registration⟩, hregister, h⟩ := h
  simp only [describeDevice, bind_eq_ok_iff] at h
  obtain ⟨_, _, h⟩ := h
  cases h
  obtain ⟨hgrowth, hdevice, howner⟩ := register_device_ok hregister
  exact ⟨user, (load_user_ok huser).2.2,
    hgrowth.writes.trans (Write.describeDevice hdevice howner _ _).writes⟩

/-- Destroying a device is one write. -/
theorem destroy_device_ok {name device : String} {counts : DestroyedDevice}
    (h : store.destroyDevice name device = .ok (next, counts)) :
    ∃ user, store.findUser? name = some user ∧ Writes user.id time? store next := by
  simp only [destroyDevice, bind_eq_ok_iff] at h
  obtain ⟨user, huser, device, hload, h⟩ := h
  cases h
  obtain ⟨hdevice, howner, _⟩ := mem_of_find_device (load_device_ok hload)
  exact ⟨user, (load_user_ok huser).2.2, (Write.endDevice hdevice howner).writes⟩

/-- An account is created under a name that is given and free, with one new row. -/
theorem create_user_inserts {name password : String} {workFactor : Nat} {user : Entry User}
    (h : store.createUser name password workFactor = .ok (next, user)) :
    (name ≠ "" ∧ IsBindable name ∧ store.findUser? name = none) ∧
      next = { store with users := store.users.insert ⟨name, false, workFactor⟩ } := by
  simp only [createUser, bind_eq_ok_iff] at h
  obtain ⟨_, _, h⟩ := h
  split at h
  · cases h
  · split at h
    · cases h
    · split at h
      · cases h
      · next hfree =>
          simp only [insertUser, bind_eq_ok_iff, require_eq_ok_iff] at h
          obtain ⟨_, ⟨hgiven, hbindable, _⟩, h⟩ := h
          cases h
          exact ⟨⟨hgiven, hbindable, by simpa using hfree⟩, rfl⟩

/-- Creating an account adds a user of a new name. -/
theorem create_user_ok {name password : String} {workFactor : Nat} {user : Entry User}
    (h : store.createUser name password workFactor = .ok (next, user)) :
    store.Effect name (.createUser password workFactor) next := by
  obtain ⟨⟨hgiven, hbindable, hfree⟩, rfl⟩ := create_user_inserts h
  exact .create rfl hgiven hbindable hfree

/-! ## Requests -/

/-- A request that only reads leaves the store as it is. -/
theorem read_ok {Result : Type} {toAnswer : Result → Answer}
    {outcome : Except Failure Result} {answer : Answer}
    (h : store.read toAnswer outcome = .ok (next, answer)) :
    next = store ∧ ∃ result, outcome = .ok result ∧ toAnswer result = answer := by
  obtain ⟨result, hresult, h⟩ := map_eq_ok_iff.mp h
  cases h
  exact ⟨rfl, result, hresult, rfl⟩

/-- A request that writes leaves the store that its operation leaves. -/
theorem write_ok {Result : Type} {toAnswer : Result → Answer}
    {outcome : Except Failure (Store × Result)} {answer : Answer}
    (h : write toAnswer outcome = .ok (next, answer)) :
    ∃ result, outcome = .ok (next, result) ∧ toAnswer result = answer := by
  obtain ⟨⟨_, result⟩, hresult, h⟩ := map_eq_ok_iff.mp h
  cases h
  exact ⟨result, hresult, rfl⟩

/-- A request that succeeds creates an account, destroys one, or makes writes for its user. -/
theorem answer_effect {name : String} {request : Request} {answer : Answer}
    (h : store.answer name request = .ok (next, answer)) : store.Effect name request next := by
  cases request with
  | createUser password workFactor =>
      obtain ⟨user, h, _⟩ := write_ok h
      exact create_user_ok h
  | destroyUser =>
      obtain ⟨counts, h, _⟩ := write_ok h
      simp only [destroyUser, bind_eq_ok_iff] at h
      obtain ⟨user, huser, h⟩ := h
      obtain rfl := congrArg Prod.fst (Except.ok.inj h)
      exact .destroy (load_user_ok huser).2.2
  | registerDevice device =>
      obtain ⟨registration, h, _⟩ := write_ok h
      obtain ⟨user, huser, h⟩ := bind_eq_ok_iff.mp h
      exact .writes (load_user_ok huser).2.2 (register_device_ok h).1.writes
  | updateDevice device caption kind =>
      obtain ⟨updated, h, _⟩ := write_ok h
      obtain ⟨user, huser, hwrites⟩ := update_device_ok h
      exact .writes huser hwrites
  | destroyDevice device =>
      obtain ⟨counts, h, _⟩ := write_ok h
      obtain ⟨user, huser, hwrites⟩ := destroy_device_ok h
      exact .writes huser hwrites
  | replaceSubscriptions device timestamp urls =>
      obtain ⟨update, h, _⟩ := write_ok h
      obtain ⟨user, huser, hwrites⟩ := replace_subscriptions_ok h
      exact .writes huser hwrites
  | changeSubscriptions device timestamp add remove =>
      obtain ⟨update, h, _⟩ := write_ok h
      obtain ⟨user, huser, hwrites⟩ := change_subscriptions_ok h
      exact .writes huser hwrites
  | addActions uploads =>
      obtain ⟨added, h, _⟩ := write_ok h
      obtain ⟨user, huser, hwrites⟩ := add_actions_ok h
      exact .writes huser hwrites
  | saveSettings texts assignments removals =>
      obtain ⟨values, h, _⟩ := write_ok h
      obtain ⟨key, _, h⟩ := bind_eq_ok_iff.mp h
      obtain ⟨user, huser, hwrites⟩ := save_settings_ok h
      exact .writes huser hwrites
  | loadUser | findDevice | listDevices | subscriptionChanges | subscriptions | findPodcast
  | listActions | lastAction | favorites | resolveKey | getSettings =>
      obtain ⟨rfl, _⟩ := read_ok h
      exact .nothing _

/-- A step of a session changes nothing or has the effect of its request. -/
theorem step_effect (store : Store) (name : String) (request : Request) :
    store.Effect name request (store.step name request).1 := by
  unfold step
  cases h : store.answer name request with
  | error failure => exact .nothing request
  | ok outcome => exact answer_effect h

end Store

end PodcastLedger
