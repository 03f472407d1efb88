import PodcastLedger.Proofs.Isolation.Mirror
import PodcastLedger.Proofs.Ledger.Reachability

/-!
# Stores that mirror the part of a user

A store that knows one user only may mirror what another store, which knows many, keeps for this
user. `Store.Mirrors` says so table by table, under a `Translation` of the ids of the mirror. What a
user looks up is found on both sides or on none, and is the same under the translation.
-/

namespace PodcastLedger

/-- Where the user and the rows of the mirror are in the source. -/
structure Translation where
  userId : Int
  devices : Int ↪o Int
  podcasts : Int ↪o Int
  episodes : Int ↪o Int
  actions : Int ↪o Int
  settings : Int ↪o Int

namespace Translation

/-- A device under its user in the source. -/
def deviceRow (translation : Translation) (device : Device) : Device :=
  { device with userId := translation.userId }

/-- A podcast under its user in the source. -/
def podcastRow (translation : Translation) (podcast : Podcast) : Podcast :=
  { podcast with userId := translation.userId }

/-- An episode under its podcast in the source. -/
def episodeRow (translation : Translation) (episode : Episode) : Episode :=
  { episode with podcastId := translation.podcasts episode.podcastId }

/-- A row of the log with the ids that it refers to in the source. -/
def actionRow (translation : Translation) (action : EpisodeAction) : EpisodeAction :=
  { action with
    deviceId := action.deviceId.map translation.devices
    podcastId := translation.podcasts action.podcastId
    episodeId := translation.episodes action.episodeId }

/-- A target with the ids that it refers to in the source. -/
def target (translation : Translation) : Target → Target
  | .account => .account
  | .device deviceId => .device (translation.devices deviceId)
  | .episode podcastId episodeId =>
    .episode (translation.podcasts podcastId) (translation.episodes episodeId)
  | .podcast podcastId => .podcast (translation.podcasts podcastId)

/-- A setting under its user and target in the source. -/
def settingRow (translation : Translation) (setting : Setting) : Setting :=
  { setting with userId := translation.userId, target := translation.target setting.target }

/-- A user in the source. -/
def user (translation : Translation) (user : Entry User) : Entry User :=
  ⟨translation.userId, user.row⟩

/-- A user in the source has the id that the translation gives. -/
@[simp] theorem id_user (translation : Translation) (user : Entry User) :
    (translation.user user).id = translation.userId := rfl

/-- A device in the source. -/
def device (translation : Translation) : Entry Device → Entry Device :=
  Entry.rename translation.devices translation.deviceRow

/-- A podcast in the source. -/
def podcast (translation : Translation) : Entry Podcast → Entry Podcast :=
  Entry.rename translation.podcasts translation.podcastRow

/-- An episode in the source. -/
def episode (translation : Translation) : Entry Episode → Entry Episode :=
  Entry.rename translation.episodes translation.episodeRow

/-- A row of the log in the source. -/
def action (translation : Translation) : Entry EpisodeAction → Entry EpisodeAction :=
  Entry.rename translation.actions translation.actionRow

/-- A setting in the source. -/
def setting (translation : Translation) : Entry Setting → Entry Setting :=
  Entry.rename translation.settings translation.settingRow

/-- Targets that differ stay different. -/
theorem target_inj (translation : Translation) {first second : Target} :
    translation.target first = translation.target second ↔ first = second := by
  cases first <;> cases second <;> simp [target]

/-- The device of a target in the source. -/
@[simp] theorem device?_target (translation : Translation) (target : Target) :
    (translation.target target).device? = target.device?.map translation.devices := by
  cases target <;> rfl

/-- The episode of a target in the source. -/
@[simp] theorem episode?_target (translation : Translation) (target : Target) :
    (translation.target target).episode? = target.episode?.map translation.episodes := by
  cases target <;> rfl

/-- A target keeps its scope. -/
@[simp] theorem scope_target (translation : Translation) (target : Target) :
    (translation.target target).scope = target.scope := by
  cases target <;> rfl

end Translation

namespace Store

/-- The copy knows one user, and has what the source keeps for this user. -/
structure Mirrors (translation : Translation) (user : Entry User) (source copy : Store) : Prop where
  source_consistent : source.Consistent
  copy_consistent : copy.Consistent
  source_user : translation.user user ∈ source.users.entries
  copy_users : copy.users.entries = [user]
  devices : source.devices.Mirrors translation.devices
    (fun device => device.row.userId == translation.userId) translation.deviceRow copy.devices
  podcasts : source.podcasts.Mirrors translation.podcasts
    (fun podcast => podcast.row.userId == translation.userId) translation.podcastRow copy.podcasts
  episodes : source.episodes.Mirrors translation.episodes
    (fun episode => source.ownsPodcast translation.userId episode.row.podcastId)
    translation.episodeRow copy.episodes
  actions : source.actions.Mirrors translation.actions
    (fun action => source.ownsPodcast translation.userId action.row.podcastId)
    translation.actionRow copy.actions
  settings : source.settings.Mirrors translation.settings
    (fun setting => setting.row.userId == translation.userId) translation.settingRow copy.settings

variable {translation : Translation} {user : Entry User} {source copy : Store}

/-- The user is there in the source. -/
theorem Mirrors.source_has (hmirrors : Mirrors translation user source copy) :
    source.users.Has translation.userId :=
  Table.has_of_mem hmirrors.source_user

/-- The user is there in the copy. -/
theorem Mirrors.copy_has (hmirrors : Mirrors translation user source copy) :
    copy.users.Has user.id := by
  refine ⟨user, ?_, rfl⟩
  rw [hmirrors.copy_users]
  exact List.mem_singleton_self user

/-- There is no other user in the copy. -/
theorem Mirrors.eq_of_has (hmirrors : Mirrors translation user source copy) {id : Int}
    (hhas : copy.users.Has id) : id = user.id := by
  obtain ⟨other, hmem, rfl⟩ := hhas
  rw [hmirrors.copy_users] at hmem
  rw [List.mem_singleton.mp hmem]

/-- The devices of the copy are those of its user. -/
theorem Mirrors.device_owner (hmirrors : Mirrors translation user source copy) {device : Entry Device}
    (hmem : device ∈ copy.devices.entries) : device.row.userId = user.id :=
  hmirrors.eq_of_has (hmirrors.copy_consistent.devices_owned device hmem)

/-- The podcasts of the copy are those of its user. -/
theorem Mirrors.podcast_owner (hmirrors : Mirrors translation user source copy)
    {podcast : Entry Podcast} (hmem : podcast ∈ copy.podcasts.entries) :
    podcast.row.userId = user.id :=
  hmirrors.eq_of_has (hmirrors.copy_consistent.podcasts_owned podcast hmem)

/-- The settings of the copy are those of its user. -/
theorem Mirrors.setting_owner (hmirrors : Mirrors translation user source copy)
    {setting : Entry Setting} (hmem : setting ∈ copy.settings.entries) :
    setting.row.userId = user.id :=
  hmirrors.eq_of_has (hmirrors.copy_consistent.settings_owned setting hmem).1

/-- A podcast of the copy is one of the user in the source. -/
theorem Mirrors.owns_podcast (hmirrors : Mirrors translation user source copy) {podcastId : Int}
    (hhas : copy.podcasts.Has podcastId) :
    source.ownsPodcast translation.userId (translation.podcasts podcastId) = true := by
  obtain ⟨podcast, hmem, rfl⟩ := hhas
  obtain ⟨hsource, _⟩ := hmirrors.podcasts.mem hmem
  exact owns_podcast_iff.mpr ⟨_, hsource, rfl, rfl⟩

/-! ## Lookups -/

/-- A device is found on both sides or on none. -/
theorem Mirrors.find_device (hmirrors : Mirrors translation user source copy) (name : String) :
    source.findDevice? translation.userId name =
      (copy.findDevice? user.id name).map translation.device := by
  refine hmirrors.devices.find_eq (fun device _ hfound => ?_) fun device hmem => ?_
  · exact (Bool.and_eq_true_iff.mp hfound).1
  · rw [hmirrors.device_owner hmem]
    simp [Translation.deviceRow]

/-- A podcast is found on both sides or on none. -/
theorem Mirrors.find_podcast (hmirrors : Mirrors translation user source copy) (url : String) :
    source.findPodcast? translation.userId url =
      (copy.findPodcast? user.id url).map translation.podcast := by
  refine hmirrors.podcasts.find_eq (fun podcast _ hfound => ?_) fun podcast hmem => ?_
  · exact (Bool.and_eq_true_iff.mp hfound).1
  · rw [hmirrors.podcast_owner hmem]
    simp [Translation.podcastRow]

/-- An episode of a podcast is found on both sides or on none. -/
theorem Mirrors.find_episode (hmirrors : Mirrors translation user source copy) {podcastId : Int}
    (hhas : copy.podcasts.Has podcastId) (url : String) :
    source.findEpisode? (translation.podcasts podcastId) url =
      (copy.findEpisode? podcastId url).map translation.episode := by
  refine hmirrors.episodes.find_eq (fun episode _ hfound => ?_) fun episode hmem => ?_
  · rw [beq_iff_eq.mp (Bool.and_eq_true_iff.mp hfound).1]
    exact hmirrors.owns_podcast hhas
  · simp [Translation.episodeRow, Bool.beq_eq_decide_eq]

/-- An episode with an identifier is found on both sides or on none. -/
theorem Mirrors.find_episode_by_guid (hmirrors : Mirrors translation user source copy)
    {podcastId : Int} (hhas : copy.podcasts.Has podcastId) (guid : String) :
    source.findEpisodeByGuid? (translation.podcasts podcastId) guid =
      (copy.findEpisodeByGuid? podcastId guid).map translation.episode := by
  refine hmirrors.episodes.find_eq (fun episode _ hfound => ?_) fun episode hmem => ?_
  · rw [beq_iff_eq.mp (Bool.and_eq_true_iff.mp hfound).1]
    exact hmirrors.owns_podcast hhas
  · simp [Translation.episodeRow, Bool.beq_eq_decide_eq]

/-- An episode that matches a text is found on both sides or on none. -/
theorem Mirrors.match_episode (hmirrors : Mirrors translation user source copy) {podcastId : Int}
    (hhas : copy.podcasts.Has podcastId) (text : String) :
    source.matchEpisode? (translation.podcasts podcastId) text =
      (copy.matchEpisode? podcastId text).map translation.episode := by
  unfold matchEpisode?
  rw [hmirrors.find_episode hhas, hmirrors.find_episode_by_guid hhas]
  cases copy.findEpisode? podcastId text <;> rfl

/-- A setting is found on both sides or on none. -/
theorem Mirrors.find_setting (hmirrors : Mirrors translation user source copy) (target : Target)
    (key : String) :
    source.settings.find? (isSetting translation.userId (translation.target target) key) =
      (copy.settings.find? (isSetting user.id target key)).map translation.setting := by
  refine hmirrors.settings.find_eq (fun setting _ hfound => ?_) fun setting hmem => ?_
  · exact (Bool.and_eq_true_iff.mp (Bool.and_eq_true_iff.mp hfound).1).1
  · unfold isSetting
    rw [hmirrors.setting_owner hmem]
    simp [Translation.settingRow, Bool.beq_eq_decide_eq, translation.target_inj]

end Store

end PodcastLedger
