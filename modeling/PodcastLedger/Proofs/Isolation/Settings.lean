import PodcastLedger.Proofs.Isolation.Subscriptions

/-!
# Settings on both sides

The operations on settings agree in the source and in the copy. A key names the same thing on both
sides, and the settings of a target are the same finite map.
-/

namespace PodcastLedger

/-- What a key names in the source. -/
def Translation.key (translation : Translation) : ResolvedKey → ResolvedKey
  | .account => .account
  | .device device => .device (translation.device device)
  | .episode podcast episode =>
    .episode (translation.podcast podcast) (translation.episode episode)
  | .podcast podcast => .podcast (translation.podcast podcast)

/-- The target that a key stands for in the source. -/
@[simp] theorem Translation.target_key (translation : Translation) (key : ResolvedKey) :
    (translation.key key).target = translation.target key.target := by
  cases key <;> rfl

namespace Store

variable {translation : Translation} {user : Entry User} {source copy : Store} {name : String}

/-! ## Keys -/

/-- The podcast of a key is found on both sides. -/
theorem Mirrors.resolve_podcast (hmirrors : Mirrors translation user source copy) (raw : String) :
    Agree (fun first second => first = translation.podcast second)
      (source.resolvePodcast translation.userId raw) (copy.resolvePodcast user.id raw) := by
  unfold resolvePodcast
  refine (hmirrors.select_raw_podcast raw).bind fun _ second _ _ hselect => ?_
  subst hselect
  cases second <;> exact rfl

/-- An episode is selected on both sides. -/
theorem Mirrors.select_episode (hmirrors : Mirrors translation user source copy) {podcastId : Int}
    (hhas : copy.podcasts.Has podcastId) (text : String) :
    Agree (fun first second => first = second.map translation.episode)
      (source.selectEpisode (translation.podcasts podcastId) text)
      (copy.selectEpisode podcastId text) := by
  unfold selectEpisode
  refine (Agree.refl _).bind fun _ _ _ _ _ => ?_
  exact hmirrors.match_episode hhas text

/-- An episode is selected on both sides by an address. -/
theorem Mirrors.select_raw_episode (hmirrors : Mirrors translation user source copy)
    {podcastId : Int} (hhas : copy.podcasts.Has podcastId) (raw : String) :
    Agree (fun first second => first = second.map translation.episode)
      (source.selectRawEpisode (translation.podcasts podcastId) raw)
      (copy.selectRawEpisode podcastId raw) := by
  unfold selectRawEpisode
  cases Web.canonical? raw with
  | none => exact rfl
  | some url => exact hmirrors.select_episode hhas url

/-- The episode of a key is found on both sides. -/
theorem Mirrors.resolve_episode (hmirrors : Mirrors translation user source copy) {podcastId : Int}
    (hhas : copy.podcasts.Has podcastId) (raw : String) :
    Agree (fun first second => first = translation.episode second)
      (source.resolveEpisode (translation.podcasts podcastId) raw)
      (copy.resolveEpisode podcastId raw) := by
  unfold resolveEpisode
  refine (hmirrors.select_raw_episode hhas raw).bind fun _ second _ _ hselect => ?_
  subst hselect
  cases second with
  | some episode => exact rfl
  | none =>
      refine (hmirrors.select_episode hhas raw).bind fun _ second _ _ hselect => ?_
      subst hselect
      cases second <;> exact rfl

/-- A key names the same thing on both sides. -/
theorem Mirrors.resolve_key (hmirrors : Mirrors translation user source copy) (key : SettingsKey) :
    Agree (fun first second => first = translation.key second)
      (source.resolveKey translation.userId key) (copy.resolveKey user.id key) := by
  cases key with
  | account => exact rfl
  | device device =>
      refine (hmirrors.load_device device).bind fun _ _ _ _ hdevice => ?_
      exact congrArg ResolvedKey.device hdevice
  | podcast raw =>
      refine (hmirrors.resolve_podcast raw).bind fun _ _ _ _ hpodcast => ?_
      exact congrArg ResolvedKey.podcast hpodcast
  | episode podcastRaw raw =>
      refine (hmirrors.resolve_podcast podcastRaw).bind fun _ podcast _ hresolve hpodcast => ?_
      subst hpodcast
      have hhas := Table.has_of_mem (resolve_podcast_ok hresolve).1
      refine (hmirrors.resolve_episode hhas raw).bind fun _ _ _ _ hepisode => ?_
      exact congrArg (ResolvedKey.episode _) hepisode

/-! ## Values -/

/-- The settings of a target are the same on both sides. -/
theorem Mirrors.settings_of (hmirrors : Mirrors translation user source copy) (target : Target) :
    source.settingsOf translation.userId (translation.target target) =
      copy.settingsOf user.id target := by
  have hfilter :
      source.settings.entries.filter (fun setting =>
          setting.row.userId == translation.userId &&
            setting.row.target == translation.target target) =
        (copy.settings.entries.filter fun setting =>
          setting.row.userId == user.id && setting.row.target == target).map
          translation.setting := by
    refine hmirrors.settings.filter_eq (fun setting _ hfound => ?_) fun setting hmem => ?_
    · exact (Bool.and_eq_true_iff.mp hfound).1
    · rw [hmirrors.setting_owner hmem]
      simp [Translation.settingRow, Bool.beq_eq_decide_eq, translation.target_inj]
  unfold settingsOf
  dsimp only
  rw [hfilter, List.map_map]
  rfl

/-- What a target needs is there on both sides. -/
theorem Owns.has_target {store : Store} {userId : Int} {target : Target}
    (howns : store.Owns userId target) : store.HasTarget target := by
  refine ⟨fun deviceId hdevice => (howns.device deviceId hdevice).has,
    fun podcastId hpodcast => (howns.podcast podcastId hpodcast).has, fun episodeId hepisode => ?_⟩
  obtain ⟨_, _, _, hof⟩ := howns.episode episodeId hepisode
  exact hof.has

/-- A setting gets a value on both sides. -/
theorem Mirrors.upsert_setting (hmirrors : Mirrors translation user source copy) {target : Target}
    (howns : copy.Owns user.id target) (key value : String) :
    Agree (Mirrors translation user)
      (source.upsertSetting translation.userId (translation.target target) key value)
      (copy.upsertSetting user.id target key value) := by
  unfold upsertSetting
  have hrequire := agree_require
    (and_congr_right fun _ => and_congr_right fun _ => and_congr_right fun _ =>
      and_congr_right fun _ => and_congr (iff_of_true hmirrors.source_has hmirrors.copy_has)
        (iff_of_true (hmirrors.owns howns).has_target howns.has_target) :
      (key ≠ "" ∧ IsBindable key ∧ value ≠ "" ∧ IsBindable value ∧
          source.users.Has translation.userId ∧ source.HasTarget (translation.target target)) ↔
        key ≠ "" ∧ IsBindable key ∧ value ≠ "" ∧ IsBindable value ∧ copy.users.Has user.id ∧
          copy.HasTarget target) .upsertSetting
  refine hrequire.bind fun _ _ _ _ _ => ?_
  rw [hmirrors.find_setting]
  cases hfind : copy.settings.find? (isSetting user.id target key) with
  | some setting => exact hmirrors.change_setting target key value
  | none => exact hmirrors.insert_setting howns hfind value

/-- A setting is removed on both sides. -/
theorem Mirrors.remove_setting_agree (hmirrors : Mirrors translation user source copy)
    (target : Target) (key : String) :
    Agree (Mirrors translation user)
      (source.removeSetting translation.userId (translation.target target) key)
      (copy.removeSetting user.id target key) := by
  unfold removeSetting
  refine (Agree.refl _).bind fun _ _ _ _ _ => ?_
  exact hmirrors.remove_setting target key

/-- Keys are set on both sides, one after the other. -/
theorem Mirrors.assign_settings (hmirrors : Mirrors translation user source copy) {target : Target}
    (howns : copy.Owns user.id target) (assignments : List (String × String)) :
    Agree (Mirrors translation user)
      (source.assignSettings translation.userId (translation.target target) assignments)
      (copy.assignSettings user.id target assignments) := by
  induction assignments generalizing source copy with
  | nil => exact hmirrors
  | cons assignment rest ih =>
      obtain ⟨key, value⟩ := assignment
      unfold assignSettings
      split
      · refine (hmirrors.remove_setting_agree target key).bind fun _ _ _ hcopy hafter => ?_
        have hwrites : SettingWrites user.id none target _ _ := remove_setting_ok hcopy
        exact ih hafter (hwrites.owns howns)
      · refine (hmirrors.upsert_setting howns key value).bind fun _ _ _ hcopy hafter => ?_
        have hwrites : SettingWrites user.id none target _ _ := upsert_setting_ok howns hcopy
        exact ih hafter (hwrites.owns howns)

/-- Keys are removed on both sides, one after the other. -/
theorem Mirrors.remove_settings (hmirrors : Mirrors translation user source copy) (target : Target)
    (keys : List String) :
    Agree (Mirrors translation user)
      (source.removeSettings translation.userId (translation.target target) keys)
      (copy.removeSettings user.id target keys) := by
  induction keys generalizing source copy with
  | nil => exact hmirrors
  | cons key keys ih =>
      unfold removeSettings
      exact (hmirrors.remove_setting_agree target key).bind fun _ _ _ _ hafter => ih hafter

/-- The settings that a key names are the same on both sides. -/
theorem Loads.get_settings (hloads : Loads translation user name source copy) (key : SettingsKey) :
    Agree (Kept translation user source copy Eq) (source.getSettings name key)
      (copy.getSettings name key) := by
  unfold getSettings
  refine hloads.bind_kept fun hmirrors => ?_
  refine (hmirrors.resolve_key key).bind fun _ resolved _ _ hresolved => ?_
  subst hresolved
  rw [Translation.target_key]
  exact hmirrors.settings_of resolved.target

/-- Settings are saved on both sides. -/
theorem Loads.save_settings (hloads : Loads translation user name source copy) (key : SettingsKey)
    (assignments : List (String × String)) (removals : List String) :
    Agree (Both translation user Eq) (source.saveSettings name key assignments removals)
      (copy.saveSettings name key assignments removals) := by
  unfold saveSettings
  refine (Agree.refl _).bind fun _ _ _ _ _ => ?_
  refine hloads.bind fun hmirrors => ?_
  refine (hmirrors.resolve_key key).bind fun _ resolved _ hcopy hresolved => ?_
  subst hresolved
  dsimp only
  rw [Translation.target_key]
  refine (hmirrors.assign_settings (resolve_key_ok hcopy) _).bind fun _ _ _ _ hassigned => ?_
  refine (hassigned.remove_settings resolved.target removals).bind fun _ _ _ _ hafter => ?_
  exact ⟨hafter, hafter.settings_of resolved.target⟩

end Store

end PodcastLedger
