import PodcastLedger.Proofs.Isolation.Translation

/-!
# Writes on both sides

A write on behalf of the user that is made in the source and in the copy, with the ids translated,
leaves the copy a mirror of the source. There is one lemma for each kind of write.
-/

namespace PodcastLedger.Store

variable {translation : Translation} {user : Entry User} {source copy : Store}

/-! ## What belongs to the user -/

/-- A device of the copy is one of the user in the source. -/
theorem Mirrors.has_device (hmirrors : Mirrors translation user source copy) {deviceId : Int}
    (hdevice : copy.HasDevice user.id deviceId) :
    source.HasDevice translation.userId (translation.devices deviceId) := by
  obtain ⟨device, hmem, rfl, _⟩ := hdevice
  exact ⟨_, (hmirrors.devices.mem hmem).1, rfl, rfl⟩

/-- A podcast of the copy is one of the user in the source. -/
theorem Mirrors.has_podcast (hmirrors : Mirrors translation user source copy) {podcastId : Int}
    (hpodcast : copy.HasPodcast user.id podcastId) :
    source.HasPodcast translation.userId (translation.podcasts podcastId) :=
  owns_podcast_iff.mp (hmirrors.owns_podcast hpodcast.has)

/-- An episode of the copy is one of its podcast in the source. -/
theorem Mirrors.has_episode (hmirrors : Mirrors translation user source copy)
    {podcastId episodeId : Int} (hepisode : copy.HasEpisode podcastId episodeId) :
    source.HasEpisode (translation.podcasts podcastId) (translation.episodes episodeId) := by
  obtain ⟨episode, hmem, rfl, rfl⟩ := hepisode
  exact ⟨_, (hmirrors.episodes.mem hmem).1, rfl, rfl⟩

/-- A row that is in its place in the copy is so in the source. -/
theorem Mirrors.places (hmirrors : Mirrors translation user source copy) {row : EpisodeAction}
    (hplaces : copy.Places user.id row) :
    source.Places translation.userId (translation.actionRow row) where
  podcast := hmirrors.has_podcast hplaces.podcast
  episode := hmirrors.has_episode hplaces.episode
  device := by
    intro deviceId hdevice
    obtain ⟨copyId, hcopy, rfl⟩ := Option.map_eq_some_iff.mp hdevice
    exact hmirrors.has_device (hplaces.device copyId hcopy)

/-- A target that belongs to the user in the copy does so in the source. -/
theorem Mirrors.owns (hmirrors : Mirrors translation user source copy) {target : Target}
    (howns : copy.Owns user.id target) :
    source.Owns translation.userId (translation.target target) := by
  cases target with
  | account => trivial
  | device deviceId => exact hmirrors.has_device howns
  | podcast podcastId => exact hmirrors.has_podcast howns
  | episode podcastId episodeId =>
      exact ⟨hmirrors.has_podcast howns.1, hmirrors.has_episode howns.2⟩

/-- Ids are the same in the source exactly if they are in the copy. -/
theorem beq_ids_iff {ids : Int ↪o Int} (first second : Int) :
    (ids first == ids second) = (first == second) := by
  rw [Bool.beq_eq_decide_eq, Bool.beq_eq_decide_eq]
  simp

/-- References are the same in the source exactly if they are in the copy. -/
theorem beq_reference_iff {ids : Int ↪o Int} (reference : Option Int) (id : Int) :
    (reference.map ids == some (ids id)) = (reference == some id) := by
  cases reference with
  | none => rfl
  | some other => exact beq_ids_iff other id

/-- A target is on a device in the source exactly if it is so in the copy. -/
theorem beq_device_target (translation : Translation) (target : Target)
    (deviceId : Int) :
    ((translation.target target).device? == some (translation.devices deviceId)) =
      (target.device? == some deviceId) := by
  rw [translation.device?_target, beq_reference_iff]

/-- A new podcast does not change who owns the others. -/
theorem owns_podcast_insert {store : Store} {podcast : Podcast} {userId podcastId : Int}
    (hhas : store.podcasts.Has podcastId) :
    ownsPodcast { store with podcasts := store.podcasts.insert podcast } userId podcastId =
      store.ownsPodcast userId podcastId := by
  have hother : store.podcasts.next ≠ podcastId := by
    have hlt := Table.lt_next_of_has hhas
    omega
  simp [ownsPodcast, deletes, hother]

/-- Changed podcasts stay with their owners. -/
theorem owns_podcast_modify {store : Store} {condition : Entry Podcast → Bool}
    {change : Podcast → Podcast} (hchange : ∀ row, (change row).userId = row.userId)
    (userId podcastId : Int) :
    ownsPodcast { store with podcasts := store.podcasts.modify condition change } userId podcastId =
      store.ownsPodcast userId podcastId := by
  unfold ownsPodcast deletes
  dsimp only
  rw [Table.entries_modify, List.any_map]
  refine congrArg (List.any _) (funext fun entry => ?_)
  rw [Function.comp_apply]
  split
  · rw [hchange]
  · rfl

/-! ## Devices -/

/-- The user is given a device. -/
theorem Mirrors.insert_device (hmirrors : Mirrors translation user source copy) {name : String}
    (hgiven : name ≠ "") (hbindable : IsBindable name)
    (hnew : copy.findDevice? user.id name = none) :
    Mirrors translation user
      { source with devices := source.devices.insert ⟨translation.userId, name, "", .other⟩ }
      { copy with devices := copy.devices.insert ⟨user.id, name, "", .other⟩ } := by
  have hsource : source.findDevice? translation.userId name = none := by
    rw [hmirrors.find_device, hnew, Option.map_none]
  exact { hmirrors with
    source_consistent :=
      hmirrors.source_consistent.insert_device hmirrors.source_has hgiven hbindable hsource
    copy_consistent :=
      hmirrors.copy_consistent.insert_device hmirrors.copy_has hgiven hbindable hnew
    devices := hmirrors.devices.insert ⟨user.id, name, "", .other⟩ (beq_self_eq_true _) }

/-- A device is described. -/
theorem Mirrors.describe_device (hmirrors : Mirrors translation user source copy) (deviceId : Int)
    (caption : String) (kind : DeviceKind) :
    Mirrors translation user
      { source with
        devices := source.devices.modify (fun entry => entry.id == translation.devices deviceId)
          fun row => { row with caption, kind } }
      { copy with
        devices := copy.devices.modify (fun entry => entry.id == deviceId)
          fun row => { row with caption, kind } } := by
  refine { hmirrors with
    source_consistent := hmirrors.source_consistent.describe_device _ caption kind
    copy_consistent := hmirrors.copy_consistent.describe_device _ caption kind
    devices := ?_ }
  dsimp only
  exact hmirrors.devices.modify (fun _ _ _ => rfl)
    (fun entry _ => beq_ids_iff entry.id deviceId) fun _ => rfl

/-- A device ends. -/
theorem Mirrors.end_device (hmirrors : Mirrors translation user source copy) (deviceId : Int) :
    Mirrors translation user (source.withoutDevice (translation.devices deviceId))
      (copy.withoutDevice deviceId) := by
  have hsource := hmirrors.source_consistent.end_device (translation.devices deviceId)
  have hcopy := hmirrors.copy_consistent.end_device deviceId
  rw [without_device_eq] at hsource hcopy ⊢
  rw [without_device_eq]
  exact { hmirrors with
    source_consistent := hsource
    copy_consistent := hcopy
    devices := hmirrors.devices.remove fun entry _ => beq_ids_iff entry.id deviceId
    actions := by
      dsimp only
      exact hmirrors.actions.modify (fun _ _ _ => rfl)
        (fun entry _ => beq_reference_iff entry.row.deviceId deviceId) fun _ => rfl
    settings := hmirrors.settings.remove fun entry _ =>
      beq_device_target translation entry.row.target deviceId }

/-! ## Podcasts and episodes -/

/-- The user is given a podcast. -/
theorem Mirrors.insert_podcast (hmirrors : Mirrors translation user source copy) {url : String}
    (hnew : copy.findPodcast? user.id url = none) :
    Mirrors translation user
      { source with podcasts := source.podcasts.insert (.fresh translation.userId url) }
      { copy with podcasts := copy.podcasts.insert (.fresh user.id url) } := by
  have hsource : source.findPodcast? translation.userId url = none := by
    rw [hmirrors.find_podcast, hnew, Option.map_none]
  refine { hmirrors with
    source_consistent := hmirrors.source_consistent.insert_podcast hmirrors.source_has hsource
    copy_consistent := hmirrors.copy_consistent.insert_podcast hmirrors.copy_has hnew
    podcasts := hmirrors.podcasts.insert (.fresh user.id url) (beq_self_eq_true _)
    episodes := hmirrors.episodes.congr_mine fun episode hmem => ?_
    actions := hmirrors.actions.congr_mine fun action hmem => ?_ }
  · exact owns_podcast_insert (hmirrors.source_consistent.episodes_placed episode hmem)
  · obtain ⟨_, _, hplaces⟩ := hmirrors.source_consistent.actions_placed action hmem
    exact owns_podcast_insert hplaces.podcast.has

/-- Podcasts of the user are turned. -/
theorem Mirrors.turn (hmirrors : Mirrors translation user source copy) (selected : String → Bool)
    (subscribed : Bool) (time : Instant) :
    Mirrors translation user
      { source with
        podcasts := source.podcasts.modify (isTurned translation.userId selected subscribed)
          (·.turn subscribed time) }
      { copy with
        podcasts := copy.podcasts.modify (isTurned user.id selected subscribed)
          (·.turn subscribed time) } := by
  refine { hmirrors with
    source_consistent := hmirrors.source_consistent.turn _ subscribed time
    copy_consistent := hmirrors.copy_consistent.turn _ subscribed time
    podcasts := ?_
    episodes := hmirrors.episodes.congr_mine fun _ _ =>
      owns_podcast_modify (fun row => row.userId_turn subscribed time) _ _
    actions := hmirrors.actions.congr_mine fun _ _ =>
      owns_podcast_modify (fun row => row.userId_turn subscribed time) _ _ }
  dsimp only
  refine hmirrors.podcasts.modify (fun podcast _ _ => ?_) (fun podcast hmem => ?_) fun row => ?_
  · rw [Podcast.userId_turn]
  · simp [isTurned, Translation.podcastRow, hmirrors.podcast_owner hmem]
  · unfold Podcast.turn Translation.podcastRow
    split <;> rfl

/-- A podcast of the user is given an episode. -/
theorem Mirrors.insert_episode (hmirrors : Mirrors translation user source copy) {podcastId : Int}
    {url : String} (hhas : copy.podcasts.Has podcastId)
    (hnew : copy.findEpisode? podcastId url = none) (guid : Option String) :
    Mirrors translation user
      { source with
        episodes := source.episodes.insert ⟨translation.podcasts podcastId, url, guid⟩ }
      { copy with episodes := copy.episodes.insert ⟨podcastId, url, guid⟩ } := by
  have howns := hmirrors.owns_podcast hhas
  have hsource : source.findEpisode? (translation.podcasts podcastId) url = none := by
    rw [hmirrors.find_episode hhas, hnew, Option.map_none]
  exact { hmirrors with
    source_consistent :=
      hmirrors.source_consistent.insert_episode (owns_podcast_iff.mp howns).has hsource guid
    copy_consistent := hmirrors.copy_consistent.insert_episode hhas hnew guid
    episodes := hmirrors.episodes.insert ⟨podcastId, url, guid⟩ howns }

/-- An episode takes an identifier. -/
theorem Mirrors.identify_episode (hmirrors : Mirrors translation user source copy)
    (episodeId : Int) (guid : Option String) :
    Mirrors translation user
      { source with
        episodes := source.episodes.modify
          (fun entry => entry.id == translation.episodes episodeId) (·.identify guid) }
      { copy with
        episodes := copy.episodes.modify (fun entry => entry.id == episodeId)
          (·.identify guid) } := by
  refine { hmirrors with
    source_consistent := hmirrors.source_consistent.identify_episode _ guid
    copy_consistent := hmirrors.copy_consistent.identify_episode _ guid
    episodes := ?_ }
  dsimp only
  exact hmirrors.episodes.modify (fun _ _ _ => rfl)
    (fun entry _ => beq_ids_iff entry.id episodeId) fun _ => rfl

/-! ## The log and the settings -/

/-- An action is recorded. -/
theorem Mirrors.insert_action (hmirrors : Mirrors translation user source copy)
    {row : EpisodeAction} (hplaces : copy.Places user.id row)
    (hmeasures : row.kind.Allows row.measures) :
    Mirrors translation user
      { source with actions := source.actions.insert (translation.actionRow row) }
      { copy with actions := copy.actions.insert row } :=
  { hmirrors with
    source_consistent :=
      hmirrors.source_consistent.insert_action hmirrors.source_has (hmirrors.places hplaces)
        hmeasures
    copy_consistent :=
      hmirrors.copy_consistent.insert_action hmirrors.copy_has hplaces hmeasures
    actions := hmirrors.actions.insert row (hmirrors.owns_podcast hplaces.podcast.has) }

/-- A setting is added. -/
theorem Mirrors.insert_setting (hmirrors : Mirrors translation user source copy) {target : Target}
    {key : String} (howns : copy.Owns user.id target)
    (hnew : copy.settings.find? (isSetting user.id target key) = none) (value : String) :
    Mirrors translation user
      { source with
        settings :=
          source.settings.insert ⟨translation.userId, translation.target target, key, value⟩ }
      { copy with settings := copy.settings.insert ⟨user.id, target, key, value⟩ } := by
  have hsource : source.settings.find?
      (isSetting translation.userId (translation.target target) key) = none := by
    rw [hmirrors.find_setting, hnew, Option.map_none]
  exact { hmirrors with
    source_consistent := hmirrors.source_consistent.insert_setting hmirrors.source_has
      (hmirrors.owns howns) hsource value
    copy_consistent :=
      hmirrors.copy_consistent.insert_setting hmirrors.copy_has howns hnew value
    settings := hmirrors.settings.insert ⟨user.id, target, key, value⟩ (beq_self_eq_true _) }

/-- A setting of the copy is the one meant exactly if it is so in the source. -/
theorem Mirrors.is_setting (hmirrors : Mirrors translation user source copy)
    {setting : Entry Setting} (hmem : setting ∈ copy.settings.entries) (target : Target)
    (key : String) :
    isSetting translation.userId (translation.target target) key
        (translation.setting setting).row =
      isSetting user.id target key setting.row := by
  unfold isSetting
  rw [hmirrors.setting_owner hmem]
  simp [Translation.setting, Translation.settingRow, Bool.beq_eq_decide_eq,
    translation.target_inj]

/-- A setting gets another value. -/
theorem Mirrors.change_setting (hmirrors : Mirrors translation user source copy) (target : Target)
    (key value : String) :
    Mirrors translation user
      { source with
        settings := source.settings.modify
          (fun entry => isSetting translation.userId (translation.target target) key entry.row)
          fun setting => { setting with value } }
      { copy with
        settings := copy.settings.modify (fun entry => isSetting user.id target key entry.row)
          fun setting => { setting with value } } := by
  refine { hmirrors with
    source_consistent := hmirrors.source_consistent.change_setting _ value
    copy_consistent := hmirrors.copy_consistent.change_setting _ value
    settings := ?_ }
  dsimp only
  exact hmirrors.settings.modify (fun _ _ _ => rfl)
    (fun _ hmem => hmirrors.is_setting hmem target key) fun _ => rfl

/-- A setting is removed. -/
theorem Mirrors.remove_setting (hmirrors : Mirrors translation user source copy) (target : Target)
    (key : String) :
    Mirrors translation user
      (source.deleteSettings fun entry =>
        isSetting translation.userId (translation.target target) key entry.row)
      (copy.deleteSettings fun entry => isSetting user.id target key entry.row) :=
  { hmirrors with
    source_consistent := hmirrors.source_consistent.remove_settings _
    copy_consistent := hmirrors.copy_consistent.remove_settings _
    settings := hmirrors.settings.remove fun _ hmem => hmirrors.is_setting hmem target key }

end PodcastLedger.Store
