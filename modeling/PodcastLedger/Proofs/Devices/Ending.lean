import PodcastLedger.Proofs.Devices.Naming
import PodcastLedger.Proofs.Isolation.Views
import PodcastLedger.Proofs.Listing.Selection

/-!
# The end of a device

When a device is destroyed, its row and its settings go and its actions stay without it, and nothing
else changes: neither what is listed and read (`Store.Consistent.list_actions_ended`,
`Store.Consistent.get_settings_ended`) nor, later on, the actions themselves
(`Store.Recounts.view_detached`). A device that gets the name then begins anew, as no id is given away
twice. `Store.destroy_device_exact` puts this together.
-/

namespace PodcastLedger

/-- A view without its device, if this is the one of the name. -/
def ActionView.withoutDevice (name : String) (view : ActionView) : ActionView :=
  if view.device = some name then { view with device := none } else view

/-- Views keep their order without their devices. -/
theorem ActionView.keeps_order_without_device (name : String) :
    KeepsOrder (withoutDevice name) := by
  have hsame : ∀ view : ActionView, (view.withoutDevice name).id = view.id ∧
      (view.withoutDevice name).timestamp = view.timestamp ∧
      (view.withoutDevice name).episodeId = view.episodeId := by
    intro view
    unfold withoutDevice
    split <;> exact ⟨rfl, rfl, rfl⟩
  constructor
  · intro first second
    unfold Before
    rw [(hsame first).1, (hsame first).2.1, (hsame second).1, (hsame second).2.1]
  · intro first second
    rw [(hsame first).2.2, (hsame second).2.2]

namespace Store

variable {store next : Store} {userId : Int} {user : Entry User} {name : String}
  {device ended : Entry Device} {action : Entry EpisodeAction} {view : ActionView}

/-! ## Views -/

/-- With the same podcasts and episodes a row is viewed in the same way, but for its device. -/
theorem view_of_same_catalog (hpodcasts : next.podcasts = store.podcasts)
    (hepisodes : next.episodes = store.episodes) (action : Entry EpisodeAction)
    (deviceId : Option Int) :
    next.view? userId ⟨action.id, { action.row with deviceId }⟩ =
      (store.view? userId action).map fun view =>
        { view with device := (deviceId.bind next.devices.get?).map (·.row.name) } := by
  unfold view?
  rw [hpodcasts, hepisodes]
  cases store.podcasts.get? action.row.podcastId with
  | none => rfl
  | some podcast =>
      cases store.episodes.get? action.row.episodeId with
      | none => rfl
      | some episode =>
          by_cases howner : podcast.row.userId = userId
          · simp [howner]
          · simp [howner]

/-- An action as it is when a device has ended. -/
def detach (deviceId : Int) (action : Entry EpisodeAction) : Entry EpisodeAction :=
  if action.row.deviceId == some deviceId then ⟨action.id, { action.row with deviceId := none }⟩
  else action

/-- The log when a device has ended. -/
theorem actions_ended (endedId : Int) : (store.withoutDevice endedId).actions.entries =
    store.actions.entries.map (detach endedId) := by
  rw [without_device_eq]
  rfl

/-- When a device has ended, its actions are viewed without it, and others as before. -/
theorem Consistent.view_ended (hconsistent : store.Consistent)
    (hfind : store.findDevice? userId name = some ended) (hmem : action ∈ store.actions.entries) :
    (store.withoutDevice ended.id).view? userId (detach ended.id action) =
      (store.view? userId action).map (ActionView.withoutDevice name) := by
  have hdevices : (store.withoutDevice ended.id).devices =
      store.devices.remove fun entry => entry.id == ended.id := by
    rw [without_device_eq]
  have hpodcasts : (store.withoutDevice ended.id).podcasts = store.podcasts := rfl
  have hepisodes : (store.withoutDevice ended.id).episodes = store.episodes := rfl
  unfold detach
  split
  · next hfrom =>
      refine (view_of_same_catalog hpodcasts hepisodes action none).trans
        (Option.map_congr fun view hviewed => ?_)
      have hdevice := (hconsistent.view_device_iff hmem hviewed hfind).mpr (beq_iff_eq.mp hfrom)
      unfold ActionView.withoutDevice
      rw [if_pos hdevice]
      rfl
  · next hother =>
      refine (view_of_same_catalog hpodcasts hepisodes action _).trans
        (Option.map_congr fun view hviewed => ?_)
      have hdevice : view.device ≠ some name := fun hsame =>
        hother (beq_iff_eq.mpr ((hconsistent.view_device_iff hmem hviewed hfind).mp hsame))
      have hsame : (action.row.deviceId.bind (store.withoutDevice ended.id).devices.get?).map
          (·.row.name) = view.device := by
        rw [(view_eq_some hviewed).2.2.1, hdevices]
        refine congrArg (Option.map _)
          (Option.bind_congr fun deviceId hid => Option.ext fun entry => ?_)
        rw [Table.get?_eq_some_iff, Table.get?_eq_some_iff, Table.mem_remove, beq_eq_false_iff_ne]
        refine ⟨fun h => ⟨h.1.1, h.2⟩, fun h => ⟨⟨h.1, fun hended => hother ?_⟩, h.2⟩⟩
        rw [hid, ← h.2, hended, beq_self_eq_true]
      unfold ActionView.withoutDevice
      rw [if_neg hdevice, hsame]

/-- When a device has ended, the same rows are viewed, those of the device without it. -/
theorem Consistent.views_ended (hconsistent : store.Consistent)
    (hfind : store.findDevice? userId name = some ended) {condition : EpisodeAction → Bool}
    (hblind : ∀ action ∈ store.actions.entries,
      condition (detach ended.id action).row = condition action.row) :
    (store.withoutDevice ended.id).views userId condition =
      (store.views userId condition).map (ActionView.withoutDevice name) := by
  unfold views
  rw [actions_ended, List.filter_map, List.filterMap_map, List.map_filterMap,
    List.filter_congr (q := fun action => condition action.row) hblind]
  exact List.filterMap_congr fun action hmem =>
    hconsistent.view_ended hfind (List.mem_of_mem_filter hmem)

/-- What a query selects is the same when a device has ended that the query does not name. -/
theorem Consistent.selected_views_ended (hconsistent : store.Consistent)
    (hfind : store.findDevice? userId name = some ended) {device : Option (Entry Device)}
    (hothers : ∀ found ∈ device, found.id ≠ ended.id) (podcast : Option (Entry Podcast))
    (since : Option Instant) :
    (store.withoutDevice ended.id).views userId (fun action =>
        device.all (fun device => action.deviceId != some device.id) &&
          podcast.all (fun podcast => action.podcastId == podcast.id) &&
          isAfter since action.occurredAt) =
      (store.views userId fun action =>
        device.all (fun device => action.deviceId != some device.id) &&
          podcast.all (fun podcast => action.podcastId == podcast.id) &&
          isAfter since action.occurredAt).map (ActionView.withoutDevice name) := by
  refine hconsistent.views_ended hfind fun action _ => ?_
  unfold detach
  split
  · next hfrom =>
      -- Neither the device that has ended nor none is the one that the query leaves out.
      have hblind : device.all (fun device => none != some device.id) =
          device.all fun device => action.row.deviceId != some device.id := by
        cases device with
        | none => rfl
        | some found =>
            have hother : some ended.id ≠ some found.id := fun hsame =>
              hothers found rfl (Option.some.inj hsame).symm
            rw [Option.all_some, Option.all_some, beq_iff_eq.mp hfrom, bne_iff_ne.mpr hother]
            rfl
      rw [← hblind]
  · rfl

/-! ## What is read -/

/-- Users are loaded as before when a device has ended. -/
theorem load_user_ended (endedId : Int) (userName : String) :
    (store.withoutDevice endedId).loadUser userName = store.loadUser userName :=
  rfl

/-- Other devices are looked for with the same result when a device has ended. -/
theorem Consistent.load_device_ended (hconsistent : store.Consistent)
    (hmem : ended ∈ store.devices.entries) {other : String}
    (hother : (userId, other) ≠ (ended.row.userId, ended.row.name)) :
    (store.withoutDevice ended.id).loadDevice userId other = store.loadDevice userId other := by
  unfold loadDevice selectDevice
  rw [hconsistent.find_device_ended_of_ne hmem hother]

/-- A device that is not the one of the user and name is not the one that has ended. -/
theorem key_ne_of_load_user (hmem : user ∈ store.users.entries)
    (hfind : store.findDevice? user.id name = some ended) {userName other : String}
    {reader : Entry User} (hload : store.loadUser userName = .ok reader)
    (hother : (userName, other) ≠ (user.row.name, name)) :
    (reader.id, other) ≠ (ended.row.userId, ended.row.name) := by
  obtain ⟨_, howner, hname⟩ := mem_of_find_device hfind
  obtain ⟨hreader, hreaderName⟩ := mem_of_find_user (load_user_ok hload).2.2
  rintro hsame
  obtain ⟨hid, rfl⟩ := Prod.mk.inj hsame
  obtain rfl := store.users.eq_of_id_eq hreader hmem (hid.trans howner)
  exact hother (Prod.ext hreaderName.symm hname)

/-- A device of another user or name has another id. -/
theorem id_ne_of_load_device (hmem : ended ∈ store.devices.entries) {other : String}
    (hother : (userId, other) ≠ (ended.row.userId, ended.row.name))
    (hload : store.loadDevice userId other = .ok device) : device.id ≠ ended.id := by
  obtain ⟨hloaded, howner, hname⟩ := mem_of_find_device (load_device_ok hload)
  intro hid
  obtain rfl := store.devices.eq_of_id_eq hloaded hmem hid
  exact hother (Prod.ext howner.symm hname.symm)

/-- A query leaves out the same device as before, if any, when another one has ended. -/
theorem Consistent.query_device_ended (hconsistent : store.Consistent)
    (hmem : ended ∈ store.devices.entries) {excluded : Option String}
    (hother : ∀ other ∈ excluded, (userId, other) ≠ (ended.row.userId, ended.row.name)) :
    (store.withoutDevice ended.id).queryDevice userId excluded =
        store.queryDevice userId excluded ∧
      ∀ found, store.queryDevice userId excluded = .ok found →
        ∀ device ∈ found, device.id ≠ ended.id := by
  cases excluded with
  | none =>
      refine ⟨rfl, ?_⟩
      rintro _ ⟨⟩ _ ⟨⟩
  | some other =>
      unfold queryDevice
      refine ⟨?_, fun found hquery device hdevice => ?_⟩
      · dsimp only
        rw [hconsistent.load_device_ended hmem (hother other rfl)]
      · obtain ⟨loaded, hload, hfound⟩ := bind_eq_ok_iff.mp hquery
        cases hfound
        cases hdevice
        exact id_ne_of_load_device hmem (hother other rfl) hload

/-- When a device has ended, a query that does not name it lists the same actions, those of the
device without it. -/
theorem Consistent.list_actions_ended (hconsistent : store.Consistent)
    (hmem : user ∈ store.users.entries) (hfind : store.findDevice? user.id name = some ended)
    {query : ActionQuery} (hquery : query.device ≠ some name) :
    (store.withoutDevice ended.id).listActions user.row.name query =
      (store.listActions user.row.name query).map
        (List.map (ActionView.withoutDevice name)) := by
  obtain ⟨hended, howner, hname⟩ := mem_of_find_device hfind
  have hexcluded : ∀ other ∈ query.device,
      (user.id, other) ≠ (ended.row.userId, ended.row.name) := by
    rintro other hother hsame
    obtain ⟨_, rfl⟩ := Prod.mk.inj hsame
    exact hquery (hother.trans (congrArg some hname))
  obtain ⟨hdevice, hothers⟩ := hconsistent.query_device_ended hended hexcluded
  refine Agree.eq_map ?_
  unfold listActions
  rw [load_user_ended, hconsistent.load_user hmem]
  refine (Agree.refl _).bind fun _ _ hload _ huser => ?_
  cases hload
  subst huser
  rw [hdevice]
  refine (Agree.refl _).bind fun device _ hload _ hsame => ?_
  subst hsame
  have harranged : ∀ podcast, arrange query _ =
      (arrange query _).map (ActionView.withoutDevice name) := fun podcast =>
    (congrArg (arrange query) (hconsistent.selected_views_ended hfind (hothers device hload) podcast
      query.since)).trans (arrange_map (ActionView.keeps_order_without_device name) query _)
  cases query.podcast with
  | none =>
      show Agree _ (requireBound query.since _ >>= _) (requireBound query.since _ >>= _)
      exact (Agree.refl _).bind fun _ _ _ _ _ => harranged none
  | some raw =>
      refine (Agree.refl ((store.selectRawPodcast user.id raw).map some)).bind
        fun podcast _ _ _ hpodcast => ?_
      subst hpodcast
      match podcast with
      | some none => exact rfl
      | none => exact (Agree.refl _).bind fun _ _ _ _ _ => harranged none
      | some (some podcast) => exact (Agree.refl _).bind fun _ _ _ _ _ => harranged (some podcast)

/-- The settings of what is not the device that has ended are as before. -/
theorem settings_of_ended {endedId : Int} {target : Target}
    (htarget : target.device? ≠ some endedId) :
    (store.withoutDevice endedId).settingsOf userId target = store.settingsOf userId target := by
  have hsettings : (store.withoutDevice endedId).settings =
      store.settings.remove fun setting => setting.row.target.device? == some endedId := by
    rw [without_device_eq]
  have hkept : (store.settings.entries.filter fun setting =>
        !(setting.row.target.device? == some endedId)).filter (fun setting =>
          setting.row.userId == userId && setting.row.target == target) =
      store.settings.entries.filter fun setting =>
        setting.row.userId == userId && setting.row.target == target := by
    rw [List.filter_filter]
    refine List.filter_congr fun setting _ => ?_
    by_cases hsame : setting.row.target = target
    · simp [hsame, htarget]
    · simp [hsame]
  unfold settingsOf
  rw [hsettings, Table.entries_remove, hkept]

/-- When a device has ended, all settings but its own are read as before. -/
theorem Consistent.get_settings_ended (hconsistent : store.Consistent)
    (hmem : user ∈ store.users.entries) (hfind : store.findDevice? user.id name = some ended)
    {userName : String} {key : SettingsKey}
    (hother : (userName, key) ≠ (user.row.name, .device name)) :
    (store.withoutDevice ended.id).getSettings userName key = store.getSettings userName key := by
  have hended := (mem_of_find_device hfind).1
  unfold getSettings
  rw [load_user_ended]
  refine bind_congr_of_ok fun reader hload => ?_
  have hkey : ∀ other, key = .device other →
      (reader.id, other) ≠ (ended.row.userId, ended.row.name) := by
    rintro other rfl
    refine key_ne_of_load_user hmem hfind hload fun hsame => hother ?_
    obtain ⟨rfl, rfl⟩ := Prod.mk.inj hsame
    rfl
  have hresolve : (store.withoutDevice ended.id).resolveKey reader.id key =
      store.resolveKey reader.id key := by
    cases key with
    | device other =>
        unfold resolveKey
        dsimp only
        rw [hconsistent.load_device_ended hended (hkey other rfl)]
    | account | episode | podcast => rfl
  rw [hresolve]
  refine bind_congr_of_ok fun resolved hresolved => ?_
  have htarget : resolved.target.device? ≠ some ended.id := by
    cases key with
    | account =>
        cases hresolved
        exact (Option.some_ne_none _).symm
    | device other =>
        obtain ⟨loaded, hloaded, hresolved⟩ := bind_eq_ok_iff.mp hresolved
        cases hresolved
        exact fun hsame =>
          id_ne_of_load_device hended (hkey other rfl) hloaded (Option.some.inj hsame)
    | episode =>
        simp only [resolveKey, bind_eq_ok_iff] at hresolved
        obtain ⟨_, _, _, _, hresolved⟩ := hresolved
        cases hresolved
        exact (Option.some_ne_none _).symm
    | podcast =>
        simp only [resolveKey, bind_eq_ok_iff] at hresolved
        obtain ⟨_, _, hresolved⟩ := hresolved
        cases hresolved
        exact (Option.some_ne_none _).symm
  rw [settings_of_ended htarget]

/-- When a device has ended, other devices get the same changes of subscriptions as before. -/
theorem Consistent.subscription_changes_ended (hconsistent : store.Consistent)
    (hmem : user ∈ store.users.entries) (hfind : store.findDevice? user.id name = some ended)
    {userName other : String} (hother : (userName, other) ≠ (user.row.name, name))
    (since : Option Instant) :
    (store.withoutDevice ended.id).subscriptionChanges userName other since =
      store.subscriptionChanges userName other since := by
  unfold subscriptionChanges
  rw [load_user_ended]
  refine bind_congr_of_ok fun reader hload => ?_
  rw [hconsistent.load_device_ended (mem_of_find_device hfind).1
    (key_ne_of_load_user hmem hfind hload hother)]
  rfl

end Store

end PodcastLedger
