import PodcastLedger.Proofs.Ledger.Deletion
import PodcastLedger.Proofs.Ledger.Effect

/-!
# Consistency of the tables

How the rows of the six tables fit together. `Store.Consistent` says that every row refers to rows
that are there and that belong to the same user, that keys name one row at most, and that measures
of playback are those of an action of kind `play`. Most of it no single statement checks. There is
one lemma for each kind of write, and `Store.Consistent.writes` says that any number of writes on
behalf of a user preserves it.
-/

namespace PodcastLedger

/-- The columns of a setting that no two settings share, where nothing equals nothing. -/
def Setting.columns (setting : Setting) :
    Int × Scope × Option Int × Option Int × Option Int × String :=
  (setting.userId, setting.target.scope, setting.target.device?, setting.target.podcast?,
    setting.target.episode?, setting.key)

/-- Of the references to a device, a podcast and an episode those are given that the scope calls
for, and no other. -/
structure Target.Complete (target : Target) : Prop where
  device : target.device?.isSome ↔ target.scope = .device
  podcast : target.podcast?.isSome ↔ target.scope = .podcast ∨ target.scope = .episode
  episode : target.episode?.isSome ↔ target.scope = .episode

/-- Every target is complete. -/
theorem Target.complete (target : Target) : target.Complete := by
  cases target <;> constructor <;> simp [device?, podcast?, episode?, scope]

/-- A target is determined by its scope and its references. -/
theorem Target.eq_of_references {first second : Target} (hscope : first.scope = second.scope)
    (hdevice : first.device? = second.device?) (hpodcast : first.podcast? = second.podcast?)
    (hepisode : first.episode? = second.episode?) : first = second := by
  cases first <;> cases second <;> simp_all [Target.scope, device?, podcast?, episode?]

/-- Two settings share their columns exactly if they are one of the same user, target and key. -/
theorem Setting.columns_eq_iff {first second : Setting} :
    first.columns = second.columns ↔
      Store.isSetting second.userId second.target second.key first = true := by
  simp only [columns, Store.isSetting, Prod.mk.injEq, Bool.and_eq_true, beq_iff_eq]
  constructor
  · rintro ⟨huser, hscope, hdevice, hpodcast, hepisode, hkey⟩
    exact ⟨⟨huser, Target.eq_of_references hscope hdevice hpodcast hepisode⟩, hkey⟩
  · rintro ⟨⟨huser, htarget⟩, hkey⟩
    rw [htarget]
    exact ⟨huser, rfl, rfl, rfl, rfl, hkey⟩

namespace Store

/-- The rows of the tables fit together. -/
structure Consistent (store : Store) : Prop where
  users_named : store.users.All fun user => user.name ≠ "" ∧ IsBindable user.name
  devices_named : store.devices.All fun device => device.name ≠ "" ∧ IsBindable device.name
  devices_owned : store.devices.All fun device => store.users.Has device.userId
  podcasts_owned : store.podcasts.All fun podcast => store.users.Has podcast.userId
  episodes_placed : store.episodes.All fun episode => store.podcasts.Has episode.podcastId
  actions_placed : store.actions.All fun action =>
    ∃ userId, store.users.Has userId ∧ store.Places userId action
  actions_measured : store.actions.All fun action => action.kind.Allows action.measures
  settings_owned : store.settings.All fun setting =>
    store.users.Has setting.userId ∧ store.Owns setting.userId setting.target
  settings_complete : store.settings.All fun setting => setting.target.Complete
  users_unique : store.users.UniqueBy User.name
  devices_unique : store.devices.UniqueBy fun device => (device.userId, device.name)
  podcasts_unique : store.podcasts.UniqueBy fun podcast => (podcast.userId, podcast.url)
  episodes_unique : store.episodes.UniqueBy fun episode => (episode.podcastId, episode.url)
  settings_unique : store.settings.UniqueBy Setting.columns

variable {store next : Store} {userId : Int} {time? : Option Instant}

/-- The store without rows is consistent. -/
theorem consistent_empty : Store.empty.Consistent := by
  constructor <;> simp [Store.empty, Table.All, Table.UniqueBy]

/-- What is in its place and what belongs to a user stays so while nothing goes. -/
theorem Consistent.actions_placed_of_keeps (hconsistent : store.Consistent)
    (hkeeps : store.Keeps next) (husers : ∀ id, store.users.Has id → next.users.Has id) :
    store.actions.All fun action => ∃ userId, next.users.Has userId ∧ next.Places userId action :=
  hconsistent.actions_placed.mono fun _ ⟨userId, huser, hplaces⟩ =>
    ⟨userId, husers userId huser, hplaces.mono hkeeps⟩

/-- What settings belong to stays theirs while nothing goes. -/
theorem Consistent.settings_owned_of_keeps (hconsistent : store.Consistent)
    (hkeeps : store.Keeps next) (husers : ∀ id, store.users.Has id → next.users.Has id) :
    store.settings.All fun setting =>
      next.users.Has setting.userId ∧ next.Owns setting.userId setting.target :=
  hconsistent.settings_owned.mono fun setting ⟨huser, howns⟩ =>
    ⟨husers setting.userId huser, howns.mono hkeeps⟩

/-! ## Writes -/

/-- A user is given a device. -/
theorem Consistent.insert_device (hconsistent : store.Consistent) (huser : store.users.Has userId)
    {name : String} (hgiven : name ≠ "") (hbindable : IsBindable name)
    (hnew : store.findDevice? userId name = none) :
    Consistent { store with devices := store.devices.insert ⟨userId, name, "", .other⟩ } := by
  exact { hconsistent with
    devices_named := hconsistent.devices_named.insert ⟨hgiven, hbindable⟩
    devices_owned := hconsistent.devices_owned.insert huser
    actions_placed := hconsistent.actions_placed_of_keeps (keeps_insert_device _ _) fun _ => id
    settings_owned := hconsistent.settings_owned_of_keeps (keeps_insert_device _ _) fun _ => id
    devices_unique := hconsistent.devices_unique.insert (key_ne_of_find_device hnew) }

/-- A device is described. -/
theorem Consistent.describe_device (hconsistent : store.Consistent)
    (condition : Entry Device → Bool) (caption : String) (kind : DeviceKind) :
    Consistent
      { store with
        devices := store.devices.modify condition fun row => { row with caption, kind } } := by
  have hkeeps := keeps_modify_devices store condition fun row =>
    show ({ row with caption, kind } : Device).userId = row.userId from rfl
  exact { hconsistent with
    devices_named := hconsistent.devices_named.modify _ fun _ => id
    devices_owned := hconsistent.devices_owned.modify _ fun _ => id
    actions_placed := hconsistent.actions_placed_of_keeps hkeeps fun _ => id
    settings_owned := hconsistent.settings_owned_of_keeps hkeeps fun _ => id
    devices_unique := hconsistent.devices_unique.modify _ fun _ => rfl }

/-- A device ends. Its actions have none then, and its settings are gone. -/
theorem Consistent.end_device (hconsistent : store.Consistent) (deviceId : Int) :
    (store.withoutDevice deviceId).Consistent := by
  rw [without_device_eq]
  -- The other devices of every user are still there.
  have hothers : ∀ {ownerId id}, store.HasDevice ownerId id → id ≠ deviceId →
      HasDevice { store with
        devices := store.devices.remove fun entry => entry.id == deviceId } ownerId id := by
    rintro ownerId id ⟨device, hdevice, rfl, howner⟩ hother
    exact ⟨device, Table.mem_remove.mpr ⟨hdevice, beq_eq_false_iff_ne.mpr hother⟩, rfl, howner⟩
  refine { hconsistent with
    devices_named := hconsistent.devices_named.remove _
    devices_owned := hconsistent.devices_owned.remove _
    actions_placed := ?_
    actions_measured := hconsistent.actions_measured.modify _ fun _ => id
    settings_owned := ?_
    settings_complete := hconsistent.settings_complete.remove _
    devices_unique := hconsistent.devices_unique.remove _
    settings_unique := hconsistent.settings_unique.remove _ }
  · intro action hmem
    obtain ⟨old, hold, rfl⟩ := Table.mem_modify.mp hmem
    obtain ⟨userId, huser, hplaces⟩ := hconsistent.actions_placed old hold
    refine ⟨userId, huser, ?_⟩
    split
    · exact ⟨hplaces.podcast, hplaces.episode, fun _ hnone => nomatch hnone⟩
    · next hother =>
        refine ⟨hplaces.podcast, hplaces.episode, fun id hid => ?_⟩
        refine hothers (hplaces.device id hid) ?_
        rintro rfl
        exact hother (beq_iff_eq.mpr hid)
  · intro setting hmem
    obtain ⟨hold, hother⟩ := Table.mem_remove.mp hmem
    obtain ⟨huser, howns⟩ := hconsistent.settings_owned setting hold
    refine ⟨huser, ?_⟩
    cases htarget : setting.row.target with
    | account => trivial
    | device id =>
        rw [htarget] at howns hother
        exact hothers howns fun heq => by simp [Target.device?, heq] at hother
    | podcast podcastId =>
        rw [htarget] at howns
        exact howns
    | episode podcastId episodeId =>
        rw [htarget] at howns
        exact howns

/-- A user is given a podcast. -/
theorem Consistent.insert_podcast (hconsistent : store.Consistent)
    (huser : store.users.Has userId) {url : String}
    (hnew : store.findPodcast? userId url = none) :
    Consistent { store with podcasts := store.podcasts.insert (.fresh userId url) } := by
  exact { hconsistent with
    podcasts_owned := hconsistent.podcasts_owned.insert huser
    episodes_placed := hconsistent.episodes_placed.mono fun _ hhas => hhas.insert _
    actions_placed := hconsistent.actions_placed_of_keeps (keeps_insert_podcast _ _) fun _ => id
    settings_owned := hconsistent.settings_owned_of_keeps (keeps_insert_podcast _ _) fun _ => id
    podcasts_unique := hconsistent.podcasts_unique.insert (key_ne_of_find_podcast hnew) }

/-- Podcasts are turned. -/
theorem Consistent.turn (hconsistent : store.Consistent) (condition : Entry Podcast → Bool)
    (subscribed : Bool) (time : Instant) :
    Consistent
      { store with podcasts := store.podcasts.modify condition (·.turn subscribed time) } := by
  have hkeeps := keeps_modify_podcasts store condition fun row => row.userId_turn subscribed time
  exact { hconsistent with
    podcasts_owned := hconsistent.podcasts_owned.modify _ fun podcast howner => by
      rwa [podcast.userId_turn]
    episodes_placed := hconsistent.episodes_placed.mono fun _ hhas => hhas.modify _ _
    actions_placed := hconsistent.actions_placed_of_keeps hkeeps fun _ => id
    settings_owned := hconsistent.settings_owned_of_keeps hkeeps fun _ => id
    podcasts_unique := hconsistent.podcasts_unique.modify _ fun podcast => by
      rw [podcast.userId_turn, podcast.url_turn] }

/-- A podcast is given an episode. -/
theorem Consistent.insert_episode (hconsistent : store.Consistent) {podcastId : Int} {url : String}
    (hpodcast : store.podcasts.Has podcastId) (hnew : store.findEpisode? podcastId url = none)
    (guid : Option String) :
    Consistent { store with episodes := store.episodes.insert ⟨podcastId, url, guid⟩ } := by
  exact { hconsistent with
    episodes_placed := hconsistent.episodes_placed.insert hpodcast
    actions_placed := hconsistent.actions_placed_of_keeps (keeps_insert_episode _ _) fun _ => id
    settings_owned := hconsistent.settings_owned_of_keeps (keeps_insert_episode _ _) fun _ => id
    episodes_unique := hconsistent.episodes_unique.insert (key_ne_of_find_episode hnew) }

/-- Episodes take an identifier. -/
theorem Consistent.identify_episode (hconsistent : store.Consistent)
    (condition : Entry Episode → Bool) (guid : Option String) :
    Consistent
      { store with episodes := store.episodes.modify condition (·.identify guid) } := by
  have hkeeps := keeps_modify_episodes store condition fun row => row.podcastId_identify guid
  exact { hconsistent with
    episodes_placed := hconsistent.episodes_placed.modify _ fun _ => id
    actions_placed := hconsistent.actions_placed_of_keeps hkeeps fun _ => id
    settings_owned := hconsistent.settings_owned_of_keeps hkeeps fun _ => id
    episodes_unique := hconsistent.episodes_unique.modify _ fun _ => rfl }

/-- An action is recorded. -/
theorem Consistent.insert_action (hconsistent : store.Consistent) (huser : store.users.Has userId)
    {row : EpisodeAction} (hplaces : store.Places userId row)
    (hmeasures : row.kind.Allows row.measures) :
    Consistent { store with actions := store.actions.insert row } := by
  have hkeeps : store.Keeps { store with actions := store.actions.insert row } := ⟨id, id, id⟩
  exact { hconsistent with
    actions_placed :=
      (hconsistent.actions_placed_of_keeps hkeeps fun _ => id).insert
        ⟨userId, huser, hplaces.mono hkeeps⟩
    actions_measured := hconsistent.actions_measured.insert hmeasures }

/-- A setting is added. -/
theorem Consistent.insert_setting (hconsistent : store.Consistent) (huser : store.users.Has userId)
    {target : Target} {key : String} (howns : store.Owns userId target)
    (hnew : store.settings.find? (isSetting userId target key) = none) (value : String) :
    Consistent { store with settings := store.settings.insert ⟨userId, target, key, value⟩ } := by
  refine { hconsistent with
    actions_placed := hconsistent.actions_placed_of_keeps ⟨id, id, id⟩ fun _ => id
    settings_owned := hconsistent.settings_owned.insert ⟨huser, howns⟩
    settings_complete := hconsistent.settings_complete.insert target.complete
    settings_unique := hconsistent.settings_unique.insert fun setting hmem hsame => ?_ }
  have hother := Table.find_eq_none_iff.mp hnew setting hmem
  rw [Setting.columns_eq_iff.mp hsame] at hother
  cases hother

/-- Settings get other values. -/
theorem Consistent.change_setting (hconsistent : store.Consistent)
    (condition : Entry Setting → Bool) (value : String) :
    Consistent
      { store with
        settings := store.settings.modify condition fun setting => { setting with value } } :=
  { hconsistent with
    actions_placed := hconsistent.actions_placed_of_keeps ⟨id, id, id⟩ fun _ => id
    settings_owned := hconsistent.settings_owned.modify _ fun _ => id
    settings_complete := hconsistent.settings_complete.modify _ fun _ => id
    settings_unique := hconsistent.settings_unique.modify _ fun _ => rfl }

/-- Settings are removed. -/
theorem Consistent.remove_settings (hconsistent : store.Consistent)
    (condition : Entry Setting → Bool) : (store.deleteSettings condition).Consistent :=
  { hconsistent with
    actions_placed := hconsistent.actions_placed_of_keeps ⟨id, id, id⟩ fun _ => id
    settings_owned := hconsistent.settings_owned.remove _
    settings_complete := hconsistent.settings_complete.remove _
    settings_unique := hconsistent.settings_unique.remove _ }

/-- A podcast of a user is in the catalog. -/
theorem HasPodcast.has {podcastId : Int} (hpodcast : store.HasPodcast userId podcastId) :
    store.podcasts.Has podcastId := by
  obtain ⟨podcast, hmem, hid, _⟩ := hpodcast
  exact ⟨podcast, hmem, hid⟩

/-- A device of a user is in the registry. -/
theorem HasDevice.has {deviceId : Int} (hdevice : store.HasDevice userId deviceId) :
    store.devices.Has deviceId := by
  obtain ⟨device, hmem, hid, _⟩ := hdevice
  exact ⟨device, hmem, hid⟩

/-- An episode of a podcast is in the catalog. -/
theorem HasEpisode.has {podcastId episodeId : Int}
    (hepisode : store.HasEpisode podcastId episodeId) : store.episodes.Has episodeId := by
  obtain ⟨episode, hmem, hid, _⟩ := hepisode
  exact ⟨episode, hmem, hid⟩

/-- A write on behalf of a user leaves the accounts alone. -/
theorem Write.users_eq (hwrite : store.Write userId time? next) : next.users = store.users := by
  cases hwrite <;> rfl

/-- A write on behalf of a user who is there preserves consistency. -/
theorem Consistent.write (hconsistent : store.Consistent) (huser : store.users.Has userId)
    (hwrite : store.Write userId time? next) : next.Consistent := by
  cases hwrite with
  | insertDevice hgiven hbindable hnew =>
      exact hconsistent.insert_device huser hgiven hbindable hnew
  | describeDevice _ _ caption kind => exact hconsistent.describe_device _ caption kind
  | endDevice _ _ => exact hconsistent.end_device _
  | insertPodcast _ hnew => exact hconsistent.insert_podcast huser hnew
  | turn _ selected subscribed => exact hconsistent.turn _ subscribed _
  | insertEpisode hpodcast hnew guid => exact hconsistent.insert_episode hpodcast.has hnew guid
  | identifyEpisode _ _ guid => exact hconsistent.identify_episode _ guid
  | insertAction hplaces hmeasures => exact hconsistent.insert_action huser hplaces hmeasures
  | insertSetting howns hnew value => exact hconsistent.insert_setting huser howns hnew value
  | changeSetting _ _ value => exact hconsistent.change_setting _ value
  | removeSetting _ _ => exact hconsistent.remove_settings _

/-- Writes on behalf of a user leave the accounts alone. -/
theorem Writes.users_eq (hwrites : Writes userId time? store next) :
    next.users = store.users := by
  induction hwrites with
  | refl => rfl
  | tail _ hwrite ih => exact hwrite.users_eq.trans ih

/-- Writes on behalf of a user who is there preserve consistency. -/
theorem Consistent.writes (hconsistent : store.Consistent) (huser : store.users.Has userId)
    (hwrites : Writes userId time? store next) : next.Consistent := by
  induction hwrites with
  | refl => exact hconsistent
  | tail hearlier hwrite ih =>
      refine ih.write ?_ hwrite
      rw [Writes.users_eq hearlier]
      exact huser

/-! ## Lookups -/

/-- The user of a consistent store is found by name. -/
theorem Consistent.find_user (hconsistent : store.Consistent) {user : Entry User}
    (hmem : user ∈ store.users.entries) : store.findUser? user.row.name = some user :=
  (hconsistent.users_unique.find_eq_some_iff fun _ => beq_iff_eq).mpr ⟨hmem, rfl⟩

/-- What is found by owner and name is the device of the user and name. -/
theorem Consistent.find_device_iff (hconsistent : store.Consistent) {name : String}
    {device : Entry Device} :
    store.findDevice? userId name = some device ↔
      device ∈ store.devices.entries ∧ device.row.userId = userId ∧ device.row.name = name := by
  have hkey : ∀ row : Device, (row.userId == userId && row.name == name) = true ↔
      (row.userId, row.name) = (userId, name) := by
    simp
  exact (hconsistent.devices_unique.find_eq_some_iff hkey).trans (by rw [Prod.mk.injEq])

/-- What is found by owner and address is the podcast of the user and address. -/
theorem Consistent.find_podcast_iff (hconsistent : store.Consistent) {url : String}
    {podcast : Entry Podcast} :
    store.findPodcast? userId url = some podcast ↔
      podcast ∈ store.podcasts.entries ∧ podcast.row.userId = userId ∧ podcast.row.url = url := by
  have hkey : ∀ row : Podcast, (row.userId == userId && row.url == url) = true ↔
      (row.userId, row.url) = (userId, url) := by
    simp
  exact (hconsistent.podcasts_unique.find_eq_some_iff hkey).trans (by rw [Prod.mk.injEq])

/-- What is found by podcast and address is the episode of the podcast and address. -/
theorem Consistent.find_episode_iff (hconsistent : store.Consistent) {podcastId : Int} {url : String}
    {episode : Entry Episode} :
    store.findEpisode? podcastId url = some episode ↔
      episode ∈ store.episodes.entries ∧ episode.row.podcastId = podcastId ∧ episode.row.url = url := by
  have hkey : ∀ row : Episode, (row.podcastId == podcastId && row.url == url) = true ↔
      (row.podcastId, row.url) = (podcastId, url) := by
    simp
  exact (hconsistent.episodes_unique.find_eq_some_iff hkey).trans (by rw [Prod.mk.injEq])

/-- A user who is there can be loaded. -/
theorem Consistent.load_user (hconsistent : store.Consistent) {user : Entry User}
    (hmem : user ∈ store.users.entries) : store.loadUser user.row.name = .ok user := by
  obtain ⟨hgiven, hbindable⟩ := hconsistent.users_named user hmem
  unfold loadUser
  rw [if_neg hgiven, require_of hbindable, hconsistent.find_user hmem]
  rfl

/-- A device that is there can be loaded. -/
theorem Consistent.load_device (hconsistent : store.Consistent) {name : String}
    {device : Entry Device} (hfind : store.findDevice? userId name = some device) :
    store.loadDevice userId name = .ok device := by
  obtain ⟨hmem, _, rfl⟩ := mem_of_find_device hfind
  obtain ⟨_, hbindable⟩ := hconsistent.devices_named device hmem
  unfold loadDevice selectDevice
  rw [require_of hbindable, hfind]
  rfl

end Store

end PodcastLedger
