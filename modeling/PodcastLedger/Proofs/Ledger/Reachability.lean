import PodcastLedger.Proofs.Ledger.Consistency
import PodcastLedger.Session

/-!
# Reachable stores

Accounts come and go without a trace. Destroying an account in a consistent store removes the rows
of the user from each table and no other row (`Store.destroy_account_eq`), so the store stays
consistent. With the writes of the other requests this makes the store consistent after every
session: `Store.run_consistent`.
-/

namespace PodcastLedger.Store

variable {store next : Store} {userId otherId : Int}

/-! ## Owners -/

/-- A device belongs to one user. -/
theorem HasDevice.owner_unique {deviceId : Int} (hfirst : store.HasDevice userId deviceId)
    (hsecond : store.HasDevice otherId deviceId) : userId = otherId := by
  obtain ⟨first, hmem, hid, rfl⟩ := hfirst
  obtain ⟨second, hmem', hid', rfl⟩ := hsecond
  rw [store.devices.eq_of_id_eq hmem hmem' (hid.trans hid'.symm)]

/-- A podcast belongs to one user. -/
theorem HasPodcast.owner_unique {podcastId : Int} (hfirst : store.HasPodcast userId podcastId)
    (hsecond : store.HasPodcast otherId podcastId) : userId = otherId := by
  obtain ⟨first, hmem, hid, rfl⟩ := hfirst
  obtain ⟨second, hmem', hid', rfl⟩ := hsecond
  rw [store.podcasts.eq_of_id_eq hmem hmem' (hid.trans hid'.symm)]

/-- An episode belongs to one podcast. -/
theorem HasEpisode.podcast_unique {podcastId otherId episodeId : Int}
    (hfirst : store.HasEpisode podcastId episodeId) (hsecond : store.HasEpisode otherId episodeId) :
    podcastId = otherId := by
  obtain ⟨first, hmem, hid, rfl⟩ := hfirst
  obtain ⟨second, hmem', hid', rfl⟩ := hsecond
  rw [store.episodes.eq_of_id_eq hmem hmem' (hid.trans hid'.symm)]

/-! ## The end of an account -/

/-- The store without the rows of a user. -/
def withoutUser (store : Store) (userId : Int) : Store where
  users := store.users.remove fun user => user.id == userId
  devices := store.devices.remove fun device => device.row.userId == userId
  podcasts := store.podcasts.remove fun podcast => podcast.row.userId == userId
  episodes := store.episodes.remove fun episode => store.ownsPodcast userId episode.row.podcastId
  actions := store.actions.remove fun action => store.ownsPodcast userId action.row.podcastId
  settings := store.settings.remove fun setting => setting.row.userId == userId

/-- The devices deleted with a user are those of the user. -/
theorem deletes_devices_iff {deviceId : Int} :
    deletes store.devices (fun device => device.row.userId == userId) deviceId = true ↔
      store.HasDevice userId deviceId := by
  rw [deletes_eq_true_iff]
  simp only [HasDevice, beq_iff_eq, and_comm]

/-- The episodes deleted with a user are those of the podcasts of the user. -/
theorem has_podcast_of_deletes_episode {podcastId episodeId : Int}
    (hepisode : store.HasEpisode podcastId episodeId)
    (hdeletes : deletes store.episodes
      (fun episode => store.ownsPodcast userId episode.row.podcastId) episodeId = true) :
    store.HasPodcast userId podcastId := by
  obtain ⟨episode, hmem, howns, hid⟩ := deletes_eq_true_iff.mp hdeletes
  rw [hepisode.podcast_unique ⟨episode, hmem, hid, rfl⟩]
  exact owns_podcast_iff.mp howns

/-- A row of the log that is not deleted with a user is in its place with another user. -/
theorem Consistent.places_of_kept (hconsistent : store.Consistent) {action : Entry EpisodeAction}
    (hmem : action ∈ (store.withoutUser userId).actions.entries) :
    ∃ ownerId, ownerId ≠ userId ∧ store.users.Has ownerId ∧ store.Places ownerId action.row := by
  obtain ⟨hold, hkept⟩ := Table.mem_remove.mp hmem
  obtain ⟨ownerId, huser, hplaces⟩ := hconsistent.actions_placed action hold
  refine ⟨ownerId, ?_, huser, hplaces⟩
  rintro rfl
  rw [owns_podcast_iff.mpr hplaces.podcast] at hkept
  cases hkept

/-- A setting that is not deleted with a user belongs to something of another user. -/
theorem Consistent.owns_of_kept (hconsistent : store.Consistent) {setting : Entry Setting}
    (hmem : setting ∈ (store.withoutUser userId).settings.entries) :
    setting.row.userId ≠ userId ∧ store.users.Has setting.row.userId ∧
      store.Owns setting.row.userId setting.row.target := by
  obtain ⟨hold, hkept⟩ := Table.mem_remove.mp hmem
  obtain ⟨huser, howns⟩ := hconsistent.settings_owned setting hold
  exact ⟨by simpa using hkept, huser, howns⟩

/-- Destroying an account removes the rows of the user and no other row. -/
theorem destroy_account_eq (hconsistent : store.Consistent) (userId : Int) :
    (store.destroyAccount userId).1 = store.withoutUser userId := by
  let settings := store.settings.remove fun setting => setting.row.userId == userId
  let actions := store.actions.remove fun action => store.ownsPodcast userId action.row.podcastId
  let episodes :=
    store.episodes.remove fun episode => store.ownsPodcast userId episode.row.podcastId
  let podcasts := store.podcasts.remove fun podcast => podcast.row.userId == userId
  let devices := store.devices.remove fun device => device.row.userId == userId
  -- What is kept belongs to others and refers only to what is theirs, so each deletion is a mere
  -- removal: no reference has to be deleted or cleared with it.
  have hepisodes :
      ({ store with settings, actions } : Store).deleteEpisodes
          (fun episode => store.ownsPodcast userId episode.row.podcastId) =
        { store with settings, actions, episodes } := by
    refine delete_episodes_unreferenced (fun action hmem => Bool.eq_false_iff.mpr fun hgone => ?_)
      fun setting hmem => any_deletes_eq_false fun episodeId hepisode hgone => ?_
    · obtain ⟨ownerId, hother, _, hplaces⟩ := hconsistent.places_of_kept hmem
      have howner := has_podcast_of_deletes_episode hplaces.episode hgone
      exact hother (hplaces.podcast.owner_unique howner)
    · obtain ⟨hother, _, howns⟩ := hconsistent.owns_of_kept hmem
      obtain ⟨podcastId, _, hpodcast, hof⟩ := howns.episode episodeId hepisode
      exact hother (hpodcast.owner_unique (has_podcast_of_deletes_episode hof hgone))
  have hpodcasts :
      ({ store with settings, actions, episodes } : Store).deletePodcasts
          (fun podcast => podcast.row.userId == userId) =
        { store with settings, actions, episodes, podcasts } := by
    refine delete_podcasts_unreferenced (fun episode hmem => (Table.mem_remove.mp hmem).2)
      (fun action hmem => (Table.mem_remove.mp hmem).2)
      fun setting hmem => any_deletes_eq_false fun podcastId hpodcast hgone => ?_
    obtain ⟨hother, _, howns⟩ := hconsistent.owns_of_kept hmem
    exact hother ((howns.podcast podcastId hpodcast).owner_unique (owns_podcast_iff.mp hgone))
  have hdevices :
      ({ store with settings, actions, episodes, podcasts } : Store).deleteDevices
          (fun device => device.row.userId == userId) =
        { store with settings, actions, episodes, podcasts, devices } := by
    refine delete_devices_unreferenced
      (fun action hmem => any_deletes_eq_false fun deviceId hdevice hgone => ?_)
      fun setting hmem => any_deletes_eq_false fun deviceId hdevice hgone => ?_
    · obtain ⟨ownerId, hother, _, hplaces⟩ := hconsistent.places_of_kept hmem
      have howner := deletes_devices_iff.mp hgone
      exact hother ((hplaces.device deviceId hdevice).owner_unique howner)
    · obtain ⟨hother, _, howns⟩ := hconsistent.owns_of_kept hmem
      exact hother ((howns.device deviceId hdevice).owner_unique (deletes_devices_iff.mp hgone))
  have husers :
      ({ store with settings, actions, episodes, podcasts, devices } : Store).deleteUsers
          (fun user => user.id == userId) = store.withoutUser userId := by
    have hkept : ∀ {id : Int}, (id == userId) = false →
        deletes store.users (fun user => user.id == userId) id = false := by
      intro id hother
      refine Bool.eq_false_iff.mpr fun hgone => ?_
      rw [eq_of_deletes_id hgone, beq_self_eq_true] at hother
      cases hother
    exact delete_users_unreferenced (fun device hmem => hkept (Table.mem_remove.mp hmem).2)
      (fun podcast hmem => hkept (Table.mem_remove.mp hmem).2)
      fun setting hmem => hkept (Table.mem_remove.mp hmem).2
  unfold destroyAccount deleteSettings deleteActions
  dsimp only
  rw [hepisodes, hpodcasts, hdevices, husers]

/-- Other accounts stay. -/
theorem has_user_of_kept (huser : store.users.Has otherId) (hother : otherId ≠ userId) :
    (store.withoutUser userId).users.Has otherId := by
  obtain ⟨user, hmem, rfl⟩ := huser
  exact ⟨user, Table.mem_remove.mpr ⟨hmem, beq_eq_false_iff_ne.mpr hother⟩, rfl⟩

/-- Devices of other users stay. -/
theorem HasDevice.kept {deviceId : Int} (hdevice : store.HasDevice otherId deviceId)
    (hother : otherId ≠ userId) : (store.withoutUser userId).HasDevice otherId deviceId := by
  obtain ⟨device, hmem, hid, rfl⟩ := hdevice
  exact ⟨device, Table.mem_remove.mpr ⟨hmem, beq_eq_false_iff_ne.mpr hother⟩, hid, rfl⟩

/-- Podcasts of other users stay. -/
theorem HasPodcast.kept {podcastId : Int} (hpodcast : store.HasPodcast otherId podcastId)
    (hother : otherId ≠ userId) : (store.withoutUser userId).HasPodcast otherId podcastId := by
  obtain ⟨podcast, hmem, hid, rfl⟩ := hpodcast
  exact ⟨podcast, Table.mem_remove.mpr ⟨hmem, beq_eq_false_iff_ne.mpr hother⟩, hid, rfl⟩

/-- Episodes of the podcasts of other users stay. -/
theorem HasEpisode.kept {podcastId episodeId : Int} (hepisode : store.HasEpisode podcastId episodeId)
    (hpodcast : store.HasPodcast otherId podcastId) (hother : otherId ≠ userId) :
    (store.withoutUser userId).HasEpisode podcastId episodeId := by
  obtain ⟨episode, hmem, hid, rfl⟩ := hepisode
  refine ⟨episode, Table.mem_remove.mpr ⟨hmem, Bool.eq_false_iff.mpr fun howns => ?_⟩, hid, rfl⟩
  exact hother (hpodcast.owner_unique (owns_podcast_iff.mp howns))

/-- Without a user the store is consistent still. -/
theorem Consistent.without_user (hconsistent : store.Consistent) (userId : Int) :
    (store.withoutUser userId).Consistent where
  users_named := hconsistent.users_named.remove _
  devices_named := hconsistent.devices_named.remove _
  devices_owned := by
    intro device hmem
    obtain ⟨hold, hother⟩ := Table.mem_remove.mp hmem
    exact has_user_of_kept (hconsistent.devices_owned device hold) (beq_eq_false_iff_ne.mp hother)
  podcasts_owned := by
    intro podcast hmem
    obtain ⟨hold, hother⟩ := Table.mem_remove.mp hmem
    exact has_user_of_kept (hconsistent.podcasts_owned podcast hold) (beq_eq_false_iff_ne.mp hother)
  episodes_placed := by
    intro episode hmem
    obtain ⟨hold, hother⟩ := Table.mem_remove.mp hmem
    obtain ⟨podcast, hpodcast, hid⟩ := hconsistent.episodes_placed episode hold
    -- The podcast of an episode that is kept is kept too: otherwise the episode would go with it.
    refine ⟨podcast, Table.mem_remove.mpr ⟨hpodcast, Bool.eq_false_iff.mpr fun howner => ?_⟩, hid⟩
    have howns : store.HasPodcast userId episode.row.podcastId :=
      ⟨podcast, hpodcast, hid, beq_iff_eq.mp howner⟩
    rw [owns_podcast_iff.mpr howns] at hother
    cases hother
  actions_placed := by
    intro action hmem
    obtain ⟨ownerId, hother, huser, hplaces⟩ := hconsistent.places_of_kept hmem
    exact ⟨ownerId, has_user_of_kept huser hother, hplaces.podcast.kept hother,
      hplaces.episode.kept hplaces.podcast hother,
      fun deviceId hdevice => (hplaces.device deviceId hdevice).kept hother⟩
  actions_measured := hconsistent.actions_measured.remove _
  settings_owned := by
    intro setting hmem
    obtain ⟨hother, huser, howns⟩ := hconsistent.owns_of_kept hmem
    refine ⟨has_user_of_kept huser hother, ?_⟩
    cases htarget : setting.row.target with
    | account => trivial
    | device deviceId => exact (howns.device deviceId (by rw [htarget]; rfl)).kept hother
    | podcast podcastId => exact (howns.podcast podcastId (by rw [htarget]; rfl)).kept hother
    | episode podcastId episodeId =>
        rw [htarget] at howns
        exact ⟨howns.1.kept hother, howns.2.kept howns.1 hother⟩
  settings_complete := hconsistent.settings_complete.remove _
  users_unique := hconsistent.users_unique.remove _
  devices_unique := hconsistent.devices_unique.remove _
  podcasts_unique := hconsistent.podcasts_unique.remove _
  episodes_unique := hconsistent.episodes_unique.remove _
  settings_unique := hconsistent.settings_unique.remove _

/-! ## Runs -/

/-- A new account leaves the store consistent. -/
theorem Consistent.insert_user (hconsistent : store.Consistent) {user : User}
    (hgiven : user.name ≠ "") (hbindable : IsBindable user.name)
    (hnew : store.findUser? user.name = none) :
    Consistent { store with users := store.users.insert user } := by
  have hkeeps : store.Keeps { store with users := store.users.insert user } := ⟨id, id, id⟩
  have husers : ∀ id, store.users.Has id → (store.users.insert user).Has id :=
    fun _ hhas => hhas.insert user
  exact { hconsistent with
    users_named := hconsistent.users_named.insert ⟨hgiven, hbindable⟩
    devices_owned := hconsistent.devices_owned.mono fun _ => husers _
    podcasts_owned := hconsistent.podcasts_owned.mono fun _ => husers _
    actions_placed := hconsistent.actions_placed_of_keeps hkeeps husers
    settings_owned := hconsistent.settings_owned_of_keeps hkeeps husers
    users_unique := hconsistent.users_unique.insert (name_ne_of_find_user hnew) }

/-- The effect of a request preserves consistency. -/
theorem Consistent.effect (hconsistent : store.Consistent) {name : String} {request : Request}
    (heffect : store.Effect name request next) : next.Consistent := by
  cases heffect with
  | create hname hgiven hbindable hnew =>
      subst hname
      exact hconsistent.insert_user hgiven hbindable hnew
  | @destroy user huser =>
      rw [destroy_account_eq hconsistent]
      exact hconsistent.without_user user.id
  | nothing => exact hconsistent
  | @writes user _ _ huser hwrites =>
      exact hconsistent.writes (Table.has_of_mem (mem_of_find_user huser).1) hwrites

/-- A step of a session preserves consistency. -/
theorem Consistent.step (hconsistent : store.Consistent) (name : String) (request : Request) :
    (store.step name request).1.Consistent :=
  hconsistent.effect (store.step_effect name request)

/-- A session leads from reachable stores to reachable stores. -/
theorem Reachable.run (hreachable : store.Reachable) (session : List (String × Request)) :
    (store.run session).1.Reachable := by
  induction session generalizing store with
  | nil => exact hreachable
  | cons first rest ih => exact ih (hreachable.step first.1 first.2)

/-- A reachable store is consistent, as every step keeps it so. -/
theorem Reachable.consistent (hreachable : store.Reachable) : store.Consistent := by
  induction hreachable with
  | empty => exact consistent_empty
  | step _ name request ih => exact ih.step name request

/-- Whatever users ask for, in any order and with any failures on the way: after a session that
began with the empty store the rows of the tables fit together. -/
theorem run_consistent (session : List (String × Request)) :
    (Store.empty.run session).1.Consistent :=
  (Reachable.empty.run session).consistent

/-- A mention preserves consistency as well. -/
theorem Consistent.mention (hconsistent : store.Consistent) {name : String} {mention : Mention}
    {mentioned : Mentioned} (h : store.mention name mention = .ok (next, mentioned)) :
    next.Consistent := by
  have hwrites : ∀ {user : Entry User}, store.loadUser name = .ok user →
      Writes user.id none store next → next.Consistent := by
    intro user huser hwrites
    have hmem := (mem_of_find_user (load_user_ok huser).2.2).1
    exact hconsistent.writes (Table.has_of_mem hmem) hwrites
  cases mention with
  | podcast url =>
      simp only [Store.mention, bind_eq_ok_iff] at h
      obtain ⟨user, huser, ⟨middle, podcast⟩, hpodcast, h⟩ := h
      cases h
      exact hwrites huser (insert_podcast_ok hpodcast).1.writes
  | knownEpisode podcastUrl text =>
      simp only [Store.mention, bind_eq_ok_iff] at h
      obtain ⟨user, huser, ⟨middle, podcast⟩, hpodcast, episode, _, h⟩ := h
      cases h
      exact hwrites huser (insert_podcast_ok hpodcast).1.writes
  | episode podcastUrl url guid =>
      simp only [Store.mention, bind_eq_ok_iff] at h
      obtain ⟨user, huser, ⟨middle, podcast⟩, hpodcast, ⟨last, episode⟩, hepisode, h⟩ := h
      cases h
      obtain ⟨hgrowth, hhas⟩ := insert_podcast_ok hpodcast
      exact hwrites huser (hgrowth.trans (insert_episode_ok hhas hepisode).1).writes

end PodcastLedger.Store
