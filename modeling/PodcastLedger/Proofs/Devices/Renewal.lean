import PodcastLedger.Proofs.Devices.Ending
import PodcastLedger.Proofs.Isolation.Noninterference

/-!
# Names of devices that are used again

Ids of devices are not given away twice, so a device that gets the name of one that has ended begins
anew (`Store.Consistent.settings_of_new`). The actions of the one that has ended stay without a device
through every session (`Store.Recounts.view_kept`), and are listed when the new one is left out.
`Store.destroy_device_exact` says what the end of a device does at once and later on.
-/

namespace PodcastLedger

/-- The later row is of the same user and name. -/
def Device.SameKey (device later : Device) : Prop :=
  later.key = device.key

/-- A row that stays is of the same user and name. -/
theorem Device.SameKey.refl (device : Device) : device.SameKey device :=
  rfl

namespace Store

variable {store next later last : Store} {userId : Int} {user : Entry User} {name userName : String}
  {device ended new : Entry Device} {request : Request} {answer : Answer}
  {action : Entry EpisodeAction} {view : ActionView} {time? : Option Instant}
  {stays gone : Int → Prop}

/-! ## Ids -/

/-- Under the id of a device there is nothing later on but a device of the same user and name. -/
theorem Write.devices_keep_keys (hwrite : store.Write userId time? next) :
    store.devices.Evolves (fun _ => False) Device.SameKey next.devices := by
  cases hwrite with
  | insertDevice => exact Table.evolves_insert .refl _ _
  | describeDevice =>
      dsimp only
      refine Table.evolves_modify _ _ fun device _ => ?_
      split <;> exact .refl device.row
  | endDevice =>
      rw [without_device_eq]
      exact Table.evolves_remove .refl fun _ _ hnever => hnever.elim
  | insertPodcast | turn | insertEpisode | identifyEpisode | insertAction | insertSetting
  | changeSetting | removeSetting => exact .refl .refl _

/-- So it is after a request. -/
theorem Consistent.devices_keep_keys (hconsistent : store.Consistent)
    (heffect : store.Effect userName request next) :
    store.devices.Evolves (fun _ => False) Device.SameKey next.devices := by
  cases heffect with
  | create => exact .refl .refl _
  | destroy =>
      rw [destroy_account_eq hconsistent]
      exact Table.evolves_remove .refl fun _ _ hnever => hnever.elim
  | nothing => exact .refl .refl _
  | writes _ hwrites =>
      induction hwrites with
      | refl => exact .refl .refl _
      | tail _ hwrite ih =>
          exact ih.trans hwrite.devices_keep_keys (fun _ hnever => hnever.elim)
            fun _ _ _ hfirst hsecond => Eq.trans hsecond hfirst

/-- A device that is there after a request and whose id was taken before was there before. -/
theorem Consistent.find_device_of_has (hconsistent : store.Consistent)
    (heffect : store.Effect userName request next) (hfind : next.findDevice? userId name = some new)
    (hhas : store.devices.Has new.id) : ∃ old, store.findDevice? userId name = some old := by
  obtain ⟨hmem, howner, hname⟩ := mem_of_find_device hfind
  obtain ⟨old, hold, _, hkey⟩ := (hconsistent.devices_keep_keys heffect).origin new hmem
    (Table.lt_next_of_has hhas)
  obtain ⟨holdOwner, holdName⟩ := Prod.mk.inj hkey
  exact ⟨old, hconsistent.find_device_iff.mpr
    ⟨hold, holdOwner.symm.trans howner, holdName.symm.trans hname⟩⟩

/-! ## New devices -/

/-- What a step answers is what its request is answered. -/
theorem answer_of_step (hstep : store.step userName request = (next, .ok answer)) :
    store.answer userName request = .ok (next, answer) := by
  cases hanswer : store.answer userName request with
  | error failure =>
      rw [step_of_error hanswer] at hstep
      cases hstep
  | ok outcome =>
      rw [step_of_answer hanswer] at hstep
      cases hstep
      rfl

/-- A user without an account has no devices. -/
theorem Consistent.find_device_destroyed (hconsistent : store.Consistent)
    (hmem : user ∈ store.users.entries)
    (hanswer : store.answer user.row.name .destroyUser = .ok (next, answer)) :
    next.findDevice? user.id name = none := by
  obtain ⟨_, hdestroy, _⟩ := write_ok hanswer
  simp only [destroyUser, bind_eq_ok_iff, hconsistent.load_user hmem] at hdestroy
  obtain ⟨_, huser, hdestroy⟩ := hdestroy
  cases huser
  obtain rfl := congrArg Prod.fst (Except.ok.inj hdestroy)
  rw [destroy_account_eq hconsistent]
  refine Table.find_eq_none_iff.mpr fun device hdevice => ?_
  rw [(Table.mem_remove.mp hdevice).2, Bool.false_and]

/-- A request after which a device is there that was not there before named it, and described it as
far as the description is not the initial one. -/
theorem Consistent.description_of_new (hconsistent : store.Consistent)
    (hmem : user ∈ store.users.entries)
    (hanswer : store.answer user.row.name request = .ok (next, answer))
    (hbefore : store.findDevice? user.id name = none)
    (hfind : next.findDevice? user.id name = some new) :
    name ∈ request.devices ∧ new.row.description =
      ⟨(request.caption? name).getD DeviceDescription.initial.caption,
        (request.kind? name).getD DeviceDescription.initial.kind⟩ := by
  have haccount : request ≠ .destroyUser := by
    rintro rfl
    rw [hconsistent.find_device_destroyed hmem hanswer] at hfind
    cases hfind
  have hdescribed := hconsistent.description_of_answer hmem hanswer haccount name
  unfold description? Request.describe at hdescribed
  rw [hbefore, hfind, Option.map_some, Option.map_none] at hdescribed
  split at hdescribed
  · cases hdescribed
  · split at hdescribed
    · next hnamed => exact ⟨hnamed, Option.some.inj hdescribed⟩
    · cases hdescribed

/-- A new device has no settings. -/
theorem Consistent.settings_of_new (hconsistent : store.Consistent)
    (hmem : user ∈ store.users.entries)
    (hanswer : store.answer user.row.name request = .ok (next, answer))
    (hbefore : store.findDevice? user.id name = none)
    (hfind : next.findDevice? user.id name = some new) :
    next.settingsOf user.id (.device new.id) = [] := by
  have hnamed := (hconsistent.description_of_new hmem hanswer hbefore hfind).1
  have hnone : (store.settings.entries.filter fun setting =>
      setting.row.userId == user.id && setting.row.target == .device new.id) = [] := by
    refine List.filter_eq_nil_iff.mpr fun setting hsetting hof => ?_
    obtain ⟨_, htarget⟩ := Bool.and_eq_true_iff.mp hof
    have howns := (hconsistent.settings_owned setting hsetting).2
    rw [beq_iff_eq.mp htarget] at howns
    obtain ⟨old, hold⟩ :=
      hconsistent.find_device_of_has (answer_effect hanswer) hfind (HasDevice.has howns)
    rw [hbefore] at hold
    cases hold
  unfold settingsOf
  rw [hconsistent.settings_of_named hmem hanswer hnamed, hnone]
  exact List.mergeSort_nil

/-- The settings of a device are read by its name. -/
theorem Consistent.get_settings_of_device (hconsistent : store.Consistent)
    (hmem : user ∈ store.users.entries) (hfind : store.findDevice? user.id name = some device) :
    store.getSettings user.row.name (.device name) =
      .ok (store.settingsOf user.id (.device device.id)) := by
  unfold getSettings resolveKey
  rw [hconsistent.load_user hmem]
  simp only [bind, Except.bind, hconsistent.load_device hfind]
  rfl

/-! ## Accounts that stay -/

/-- A user whose account is not destroyed by a request is there afterwards. -/
theorem Consistent.user_stays_step (hconsistent : store.Consistent)
    (hmem : user ∈ store.users.entries) (hstays : ¬ store.EndsAccount userName request user.id) :
    user ∈ (store.step userName request).1.users.entries := by
  cases hanswer : store.answer userName request with
  | error failure =>
      rw [step_of_error hanswer]
      exact hmem
  | ok outcome =>
      obtain ⟨next, answer⟩ := outcome
      rw [step_of_answer hanswer]
      cases answer_effect hanswer with
      | create => exact Table.mem_insert.mpr (.inl hmem)
      | @destroy destroyed hfind =>
          rw [destroy_account_eq hconsistent]
          refine Table.mem_remove.mpr ⟨hmem, beq_eq_false_iff_ne.mpr fun hid => hstays ?_⟩
          refine ⟨rfl, destroyed, hfind, hid.symm, answer, ?_⟩
          rw [step_of_answer hanswer]
      | nothing => exact hmem
      | writes _ hwrites =>
          rw [hwrites.users_eq]
          exact hmem

/-- A user whose account is not destroyed in a session is there afterwards. -/
theorem Consistent.user_stays (hconsistent : store.Consistent) (hmem : user ∈ store.users.entries)
    {session : List (String × Request)} (hstays : ¬ store.EndsAccountIn session user.id) :
    user ∈ (store.run session).1.users.entries := by
  induction session generalizing store with
  | nil => exact hmem
  | cons first rest ih =>
      obtain ⟨userName, request⟩ := first
      obtain ⟨hfirst, hrest⟩ := not_or.mp hstays
      exact ih (hconsistent.step userName request) (hconsistent.user_stays_step hmem hfirst) hrest

/-! ## Detached actions -/

/-- An action without a device stays so, and is viewed as before, but for an identifier that its
episode may get. -/
theorem Recounts.view_kept (hrecounts : store.Recounts later stays gone)
    (hconsistent : store.Consistent) (hstays : stays userId)
    (hmem : action ∈ store.actions.entries) (hnone : action.row.deviceId = none)
    (hview : store.view? userId action = some view) :
    action ∈ later.actions.entries ∧ ∃ guid, (∀ known ∈ view.guid, guid = some known) ∧
      later.view? userId action = some { view with guid } := by
  unfold view? at hview ⊢
  simp only [bind, Option.bind_eq_some_iff] at hview
  obtain ⟨podcast, hpodcast, episode, hepisode, hview⟩ := hview
  split at hview
  · next howner =>
      obtain ⟨hpodcast, hpodcastId⟩ := Table.get?_eq_some_iff.mp hpodcast
      obtain ⟨hepisode, hepisodeId⟩ := Table.get?_eq_some_iff.mp hepisode
      have howned : store.HasPodcast userId action.row.podcastId :=
        ⟨podcast, hpodcast, hpodcastId, howner⟩
      obtain ⟨_, _, hplaces⟩ := hconsistent.actions_placed action hmem
      have hof : episode.row.podcastId = action.row.podcastId :=
        HasEpisode.podcast_unique ⟨episode, hepisode, hepisodeId, rfl⟩ hplaces.episode
      obtain ⟨podcast', hpodcast', hpodcastId', hpodcastGoes⟩ :=
        hrecounts.podcasts.carried podcast hpodcast (howner ▸ hstays)
      obtain ⟨episode', hepisode', hepisodeId', hepisodeGoes⟩ :=
        hrecounts.episodes.carried episode hepisode ⟨userId, hstays, hof ▸ howned⟩
      obtain ⟨⟨id, row⟩, haction', hid, hactionGoes⟩ :=
        hrecounts.actions.carried action hmem ⟨userId, hstays, howned⟩
      have hrow : row = action.row := by
        have hdevice : row.deviceId = action.row.deviceId :=
          hactionGoes.attached fun _ hsome => by rw [hnone] at hsome; cases hsome
        have hothers : row = { action.row with deviceId := row.deviceId } := hactionGoes.others
        rw [hothers, hdevice]
      subst hrow
      obtain rfl : id = action.id := hid
      refine ⟨haction', episode'.row.guid, fun known hknown => ?_, ?_⟩
      · cases hview
        exact hepisodeGoes.guid known hknown
      · rw [Table.get?_eq_some_iff.mpr ⟨hpodcast', hpodcastId'.trans hpodcastId⟩,
          Table.get?_eq_some_iff.mpr ⟨hepisode', hepisodeId'.trans hepisodeId⟩]
        cases hview
        simp [hnone, hpodcastGoes.user, hpodcastGoes.url, hepisodeGoes.url, howner]
  · cases hview

/-- The actions of a device that has ended are listed later on when a device of its name is left
out. -/
theorem Consistent.lists_detached (hconsistent : store.Consistent)
    (hmem : user ∈ store.users.entries) (hfind : store.findDevice? user.id name = some ended)
    (hrecounts : (store.withoutDevice ended.id).Recounts later stays gone)
    (hstays : stays user.id) (hlater : later.Consistent) (hlaterMem : user ∈ later.users.entries)
    (hknown : (later.findDevice? user.id name).isSome) {log : List ActionView}
    (hlog : store.listActions user.row.name .all = .ok log) :
    ∃ views, later.listActions user.row.name { ActionQuery.all with device := some name } =
        .ok views ∧
      ∀ view ∈ log, view.device = some name →
        ∃ guid, (∀ known ∈ view.guid, guid = some known) ∧
          { view with device := none, guid } ∈ views := by
  let query : ActionQuery := { ActionQuery.all with device := some name }
  have hbindable : ∀ other ∈ query.device, IsBindable other := by
    rintro _ ⟨⟩
    obtain ⟨hended, _, hname⟩ := mem_of_find_device hfind
    exact hname ▸ (hconsistent.devices_named ended hended).2
  have hfound : ∀ other ∈ query.device, (later.findDevice? user.id other).isSome := by
    rintro _ ⟨⟩
    exact hknown
  have hlist : later.listActions user.row.name query = .ok (ActionView.sort .ascending
      ((later.views user.id fun _ => true).filter query.selects)) :=
    hlater.list_actions_eq hlaterMem hbindable hfound nofun
  refine ⟨_, hlist, fun view hmemLog hdevice => ?_⟩
  rw [hconsistent.list_actions_all hmem] at hlog
  cases hlog
  obtain ⟨action, haction, hview⟩ :=
    List.mem_filterMap.mp ((ActionView.sort_perm _ _).mem_iff.mp hmemLog)
  have hstored := List.mem_of_mem_filter haction
  have hfrom : (action.row.deviceId == some ended.id) = true :=
    beq_iff_eq.mpr ((hconsistent.view_device_iff hstored hview hfind).mp hdevice)
  have hdetached : (store.withoutDevice ended.id).view? user.id (detach ended.id action) =
      some { view with device := none } := by
    rw [hconsistent.view_ended hfind hstored, hview, Option.map_some, ActionView.withoutDevice,
      if_pos hdevice]
  have hnone : (detach ended.id action).row.deviceId = none := by
    rw [detach, if_pos hfrom]
  have hentry : detach ended.id action ∈ (store.withoutDevice ended.id).actions.entries := by
    rw [actions_ended]
    exact List.mem_map_of_mem hstored
  obtain ⟨hkept, guid, hguid, hlaterView⟩ :=
    hrecounts.view_kept (hconsistent.end_device ended.id) hstays hentry hnone hdetached
  refine ⟨guid, hguid, (ActionView.sort_perm _ _).mem_iff.mpr (List.mem_filter.mpr ⟨?_, ?_⟩)⟩
  · exact List.mem_filterMap.mpr ⟨_, List.mem_filter.mpr ⟨hkept, rfl⟩, hlaterView⟩
  · simp [ActionQuery.selects, query, ActionQuery.all, isAfter]

/-! ## The whole effect -/

/-- The device has ended: its row and its settings are gone and its actions are without it, as
counted, and nothing else has changed. -/
structure Ended (store next : Store) (device : Entry Device) (counts : DestroyedDevice) : Prop where
  users : next.users = store.users
  podcasts : next.podcasts = store.podcasts
  episodes : next.episodes = store.episodes
  devices : next.devices = store.devices.remove fun entry => entry.id == device.id
  actions : next.actions =
    store.actions.modify (fun action => action.row.deviceId == some device.id)
      fun action => { action with deviceId := none }
  settings : next.settings =
    store.settings.remove fun setting => setting.row.target == .device device.id
  destroyed : counts.devices = 1
  detached : counts.detached =
    store.actions.entries.countP fun action => action.row.deviceId == some device.id
  deleted : counts.settings =
    store.settings.entries.countP fun setting => setting.row.target == .device device.id

/-- Settings are of a device exactly if the device is their target. -/
theorem target_device_eq (target : Target) (deviceId : Int) :
    (target.device? == some deviceId) = (target == .device deviceId) := by
  rw [Bool.eq_iff_iff, beq_iff_eq, beq_iff_eq]
  cases target <;> simp [Target.device?]

/-- A device that is there is destroyed. -/
theorem Consistent.destroy_device_ok (hconsistent : store.Consistent)
    (hmem : user ∈ store.users.entries) (hfind : store.findDevice? user.id name = some device) :
    ∃ counts, store.destroyDevice user.row.name name =
        .ok (store.withoutDevice device.id, counts) ∧
      store.Ended (store.withoutDevice device.id) device counts := by
  have htargets : (fun setting : Entry Setting => setting.row.target.device? == some device.id) =
      fun setting => setting.row.target == .device device.id :=
    funext fun setting => target_device_eq setting.row.target device.id
  have hnext := store.without_device_eq device.id
  unfold destroyDevice
  rw [hconsistent.load_user hmem]
  simp only [bind, Except.bind, hconsistent.load_device hfind]
  refine ⟨_, rfl, ?_⟩
  exact
    { users := rfl
      podcasts := rfl
      episodes := rfl
      devices := by rw [hnext]
      actions := by rw [hnext]
      settings := by rw [hnext, ← htargets]
      destroyed := count_id_eq_one (mem_of_find_device hfind).1
      detached := rfl
      deleted := by rw [← htargets] }

/-- To delete the row of a device is to end the device: the cascades of the schema do all of it. -/
theorem delete_device_eq (hmem : device ∈ store.devices.entries) :
    store.deleteDevices (fun entry => entry.id == device.id) = store.withoutDevice device.id := by
  have hgone : deletes store.devices (fun entry => entry.id == device.id) =
      fun deviceId => deviceId == device.id := by
    funext deviceId
    rw [Bool.eq_iff_iff, beq_iff_eq]
    refine ⟨eq_of_deletes_id, ?_⟩
    rintro rfl
    exact deletes_eq_true_iff.mpr ⟨device, hmem, beq_self_eq_true _, rfl⟩
  have hany : ∀ reference : Option Int, reference.any (fun deviceId => deviceId == device.id) =
      (reference == some device.id) := by
    rintro (_ | deviceId) <;> rfl
  rw [without_device_eq]
  unfold deleteDevices
  simp only [hgone, hany]

/-- The end of a device, exactly. The row of the device and its settings are deleted, its actions are
detached, each as counted, and nothing else changes, as if the row alone had been deleted with the
cascades of the schema. The user lists the same actions, those of the device without it, all other
settings are read as before, and so are subscriptions and their changes. Later on, as long as the
account stays, the detached actions are listed when a device of the same name is left out; and when
such a device comes to be there, it has no settings, and the description that the request gave it. -/
theorem destroy_device_exact (hreachable : store.Reachable) (hmem : user ∈ store.users.entries)
    (hfind : store.findDevice? user.id name = some device) :
    ∃ next counts, store.destroyDevice user.row.name name = .ok (next, counts) ∧
      store.Ended next device counts ∧
      next = store.deleteDevices (fun entry => entry.id == device.id) ∧
      (∀ query, query.device ≠ some name →
        next.listActions user.row.name query =
          (store.listActions user.row.name query).map (List.map (ActionView.withoutDevice name))) ∧
      (∀ userName key, (userName, key) ≠ (user.row.name, .device name) →
        next.getSettings userName key = store.getSettings userName key) ∧
      (∀ userName since, next.subscriptions userName since = store.subscriptions userName since) ∧
      (∀ userName other since, (userName, other) ≠ (user.row.name, name) →
        next.subscriptionChanges userName other since =
          store.subscriptionChanges userName other since) ∧
      ∀ session, ¬ next.EndsAccountIn session user.id →
        let later := (next.run session).1
        (∀ log, store.listActions user.row.name .all = .ok log →
          (later.findDevice? user.id name).isSome →
            ∃ views, later.listActions user.row.name { ActionQuery.all with device := some name } =
                .ok views ∧
              ∀ view ∈ log, view.device = some name →
                ∃ guid, (∀ known ∈ view.guid, guid = some known) ∧
                  { view with device := none, guid } ∈ views) ∧
        ∀ request last answer new, later.findDevice? user.id name = none →
          later.step user.row.name request = (last, .ok answer) →
          last.findDevice? user.id name = some new →
            last.getSettings user.row.name (.device name) = .ok [] ∧
            new.row.caption = (request.caption? name).getD "" ∧
            new.row.kind = (request.kind? name).getD .other := by
  have hconsistent := hreachable.consistent
  obtain ⟨counts, hdestroy, hended⟩ := hconsistent.destroy_device_ok hmem hfind
  refine ⟨_, counts, hdestroy, hended, (delete_device_eq (mem_of_find_device hfind).1).symm,
    fun query => hconsistent.list_actions_ended hmem hfind,
    fun userName key => hconsistent.get_settings_ended hmem hfind, fun _ _ => rfl,
    fun userName other since hother =>
      hconsistent.subscription_changes_ended hmem hfind hother since,
    fun session hstays => ?_⟩
  intro later
  have hnext := hconsistent.end_device device.id
  have hlater : later.Consistent := by
    have hanswer : store.answer user.row.name (.destroyDevice name) =
        .ok (store.withoutDevice device.id, .deviceDestroyed counts) := by
      simp only [Store.answer, write, hdestroy, Except.map]
    have hstep := hreachable.step user.row.name (.destroyDevice name)
    rw [step_of_answer hanswer] at hstep
    exact (hstep.run session).consistent
  have hlaterMem : user ∈ later.users.entries := hnext.user_stays hmem hstays
  refine ⟨fun log hlog hknown => ?_, fun request last answer new hbefore hstep hnew => ?_⟩
  · exact hconsistent.lists_detached hmem hfind (hnext.recounts_run session) hstays hlater hlaterMem
      hknown hlog
  · have hanswer := answer_of_step hstep
    have hlastMem : user ∈ last.users.entries := by
      have hstays : ¬ later.EndsAccount user.row.name request user.id := by
        rintro ⟨rfl, _⟩
        rw [hlater.find_device_destroyed hlaterMem hanswer] at hnew
        cases hnew
      have hafter := hlater.user_stays_step hlaterMem hstays
      rwa [hstep] at hafter
    have hlast : last.Consistent := hlater.effect (answer_effect hanswer)
    have hdescription := (hlater.description_of_new hlaterMem hanswer hbefore hnew).2
    refine ⟨?_, congrArg DeviceDescription.caption hdescription,
      congrArg DeviceDescription.kind hdescription⟩
    rw [hlast.get_settings_of_device hlastMem hnew,
      hlater.settings_of_new hlaterMem hanswer hbefore hnew]

/-- An account with a phone: an action from it, its description and a setting of it, and a setting of
the account. -/
def phoneInUse : List (String × Request) :=
  [("ann", .createUser "long enough" 10),
    ("ann", .addActions [⟨"download", some "phone", "http://a.example/1", none,
      "http://a.example/feed", none, none, .ofUnix 1000, none⟩]),
    ("ann", .updateDevice "phone" (some "Pocket") (some "mobile")),
    ("ann", .saveSettings ⟨"device", some "phone", none, none⟩ [("theme", "dark")] []),
    ("ann", .saveSettings ⟨"account", none, none, none⟩ [("theme", "light")] [])]

/-- The phone is destroyed, the episode is identified by a tablet, and a phone is registered. It has no
settings and no description, and the action of the first one is listed beside it. -/
theorem phone_destroyed_and_registered :
    let store := (Store.empty.run phoneInUse).1
    let view : ActionView := ⟨1, 1, "download", some "phone", "http://a.example/1", none,
      "http://a.example/feed", none, none, .ofUnix 1000, none⟩
    let identify : String × Request := ("ann", .addActions [⟨"new", some "tablet",
      "http://a.example/1", some "one", "http://a.example/feed", none, none, .ofUnix 2000, none⟩])
    let register : String × Request := ("ann", .registerDevice "phone")
    ∃ next counts, store.destroyDevice "ann" "phone" = .ok (next, counts) ∧ counts = ⟨1, 1, 1⟩ ∧
      next.listActions "ann" .all = .ok [{ view with device := none }] ∧
      next.getSettings "ann" .account = .ok [("theme", "light")] ∧
      let last := (next.run [identify, register]).1
      last.getSettings "ann" (.device "phone") = .ok [] ∧
        last.findDevice? 1 "phone" = some ⟨3, ⟨1, "phone", "", .other⟩⟩ ∧
        ∃ views, last.listActions "ann" { ActionQuery.all with device := some "phone" } =
            .ok views ∧
          ∃ guid, { view with device := none, guid } ∈ views := by
  intro store view identify register
  have hreachable : store.Reachable := Reachable.empty.run phoneInUse
  let user : Entry User := ⟨1, "ann", false, 10⟩
  have hmem : user ∈ store.users.entries := by decide +kernel
  have hfind : store.findDevice? user.id "phone" = some ⟨1, ⟨1, "phone", "Pocket", .mobile⟩⟩ := by
    decide +kernel
  obtain ⟨next, counts, hdestroy, hended, hcascade, hlists, hsettings, _, _, hlater⟩ :=
    destroy_device_exact hreachable hmem hfind
  have hcounts : counts = ⟨1, 1, 1⟩ := by
    have hdetached : counts.detached = 1 := hended.detached.trans (by decide +kernel)
    have hdeleted : counts.settings = 1 := hended.deleted.trans (by decide +kernel)
    obtain ⟨devices, detached, settings⟩ := counts
    rw [show devices = 1 from hended.destroyed, show detached = 1 from hdetached,
      show settings = 1 from hdeleted]
  have hlog : store.listActions "ann" .all = .ok [view] := by decide +kernel
  have haccount : store.getSettings "ann" .account = .ok [("theme", "light")] := by decide +kernel
  refine ⟨next, counts, hdestroy, hcounts, ?_, ?_, ?_⟩
  · exact (hlists .all nofun).trans (by rw [show store.listActions _ _ = _ from hlog]; rfl)
  · exact (hsettings "ann" .account (by decide)).trans haccount
  · intro last
    let later := (next.run [identify]).1
    have hidentified : ¬ next.EndsAccountIn [identify] user.id := by
      rintro (⟨hrequest, _⟩ | hnone)
      · cases hrequest
      · exact hnone
    have hregistered : ¬ next.EndsAccountIn [identify, register] user.id := by
      rintro (⟨hrequest, _⟩ | ⟨hrequest, _⟩ | hnone)
      · cases hrequest
      · cases hrequest
      · exact hnone
    subst hcascade
    have hnew : last.findDevice? user.id "phone" = some ⟨3, ⟨1, "phone", "", .other⟩⟩ := by
      decide +kernel
    have hanswer : (later.step "ann" (.registerDevice "phone")).2 =
        .ok (.registration ⟨⟨3, ⟨1, "phone", "", .other⟩⟩, true⟩) := by
      decide +kernel
    obtain ⟨hnone, _⟩ := (hlater [identify] hidentified).2 (.registerDevice "phone") last _ _
      (by decide +kernel) (Prod.ext rfl hanswer) hnew
    obtain ⟨views, hviews, hdetached⟩ :=
      (hlater [identify, register] hregistered).1 [view] hlog (by rw [hnew]; rfl)
    obtain ⟨guid, _, hview⟩ := hdetached view List.mem_cons_self rfl
    exact ⟨hnone, hnew, views, hviews, guid, hview⟩

end Store

end PodcastLedger
