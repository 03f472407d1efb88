import PodcastLedger.Proofs.Ledger.Table
import PodcastLedger.Proofs.Ledger.Write

/-!
# What deletion leaves

Deletions cascade to the rows that refer to what is deleted, so a deletion that nothing refers to
only removes rows of its own table. By that, the end of a device is the removal of the device and
its settings with its actions detached: `Store.without_device_eq`.
-/

namespace PodcastLedger.Store

variable {store : Store}

/-- If no row satisfies the condition, none is deleted. -/
theorem deletes_of_none {Row : Type} {table : Table Row} {condition : Entry Row → Bool}
    (hnone : ∀ entry ∈ table.entries, condition entry = false) (id : Int) :
    deletes table condition id = false := by
  unfold deletes
  refine List.any_eq_false.mpr fun entry hmem => ?_
  simp [hnone entry hmem]

/-- Something is deleted under an id exactly if a row of the id satisfies the condition. -/
theorem deletes_eq_true_iff {Row : Type} {table : Table Row} {condition : Entry Row → Bool}
    {id : Int} :
    deletes table condition id = true ↔
      ∃ entry ∈ table.entries, condition entry = true ∧ entry.id = id := by
  simp [deletes, List.any_eq_true]

/-- A podcast is one of a user exactly if a row says so. -/
theorem owns_podcast_iff {userId podcastId : Int} :
    store.ownsPodcast userId podcastId = true ↔ store.HasPodcast userId podcastId := by
  unfold ownsPodcast HasPodcast
  rw [deletes_eq_true_iff]
  simp only [beq_iff_eq, and_comm]

/-- No reference is to a deleted row if each id that it may have is kept. -/
theorem any_deletes_eq_false {Row : Type} {table : Table Row} {condition : Entry Row → Bool}
    {reference : Option Int} (hkept : ∀ id ∈ reference, ¬deletes table condition id = true) :
    reference.any (deletes table condition) = false := by
  cases reference with
  | none => rfl
  | some id => exact Bool.eq_false_iff.mpr (hkept id rfl)

/-- If no reference is to a deleted row, each id that it may have is kept. -/
theorem eq_false_of_any_deletes {Row : Type} {table : Table Row} {condition : Entry Row → Bool}
    {reference : Option Int} (hkept : reference.any (deletes table condition) = false) :
    ∀ id ∈ reference, deletes table condition id = false := by
  rintro id rfl
  exact hkept

/-- If no row satisfies the condition, no reference is to a deleted row. -/
theorem any_deletes_of_none {Row : Type} {table : Table Row} {condition : Entry Row → Bool}
    (hnone : ∀ entry ∈ table.entries, condition entry = false) (reference : Option Int) :
    reference.any (deletes table condition) = false :=
  any_deletes_eq_false fun id _ => Bool.eq_false_iff.mp (deletes_of_none hnone id)

/-- A condition on the id deletes only under this id. -/
theorem eq_of_deletes_id {Row : Type} {table : Table Row} {id other : Int}
    (hdeletes : deletes table (fun entry => entry.id == id) other = true) : other = id := by
  obtain ⟨entry, _, hentry, hother⟩ := deletes_eq_true_iff.mp hdeletes
  rw [← hother]
  exact beq_iff_eq.mp hentry

/-! ## Deletions that nothing refers to -/

/-- Episodes go alone if nothing refers to them. -/
theorem delete_episodes_unreferenced {condition : Entry Episode → Bool}
    (hactions : ∀ action ∈ store.actions.entries,
      deletes store.episodes condition action.row.episodeId = false)
    (hsettings : ∀ setting ∈ store.settings.entries,
      setting.row.target.episode?.any (deletes store.episodes condition) = false) :
    store.deleteEpisodes condition =
      { store with episodes := store.episodes.remove condition } := by
  unfold deleteEpisodes
  dsimp only
  rw [Table.remove_of_none hactions, Table.remove_of_none hsettings]

/-- No episode goes, so nothing goes with it. -/
theorem delete_episodes_of_none {condition : Entry Episode → Bool}
    (hnone : ∀ entry ∈ store.episodes.entries, condition entry = false) :
    store.deleteEpisodes condition = store := by
  rw [delete_episodes_unreferenced (fun _ _ => deletes_of_none hnone _)
    fun _ _ => any_deletes_of_none hnone _, Table.remove_of_none hnone]

/-- Podcasts go alone if nothing refers to them. -/
theorem delete_podcasts_unreferenced {condition : Entry Podcast → Bool}
    (hepisodes : ∀ episode ∈ store.episodes.entries,
      deletes store.podcasts condition episode.row.podcastId = false)
    (hactions : ∀ action ∈ store.actions.entries,
      deletes store.podcasts condition action.row.podcastId = false)
    (hsettings : ∀ setting ∈ store.settings.entries,
      setting.row.target.podcast?.any (deletes store.podcasts condition) = false) :
    store.deletePodcasts condition =
      { store with podcasts := store.podcasts.remove condition } := by
  unfold deletePodcasts
  dsimp only
  rw [delete_episodes_of_none hepisodes, Table.remove_of_none hactions,
    Table.remove_of_none hsettings]

/-- No podcast goes, so nothing goes with it. -/
theorem delete_podcasts_of_none {condition : Entry Podcast → Bool}
    (hnone : ∀ entry ∈ store.podcasts.entries, condition entry = false) :
    store.deletePodcasts condition = store := by
  rw [delete_podcasts_unreferenced (fun _ _ => deletes_of_none hnone _)
    (fun _ _ => deletes_of_none hnone _) fun _ _ => any_deletes_of_none hnone _,
    Table.remove_of_none hnone]

/-- Devices go alone if nothing refers to them. -/
theorem delete_devices_unreferenced {condition : Entry Device → Bool}
    (hactions : ∀ action ∈ store.actions.entries,
      action.row.deviceId.any (deletes store.devices condition) = false)
    (hsettings : ∀ setting ∈ store.settings.entries,
      setting.row.target.device?.any (deletes store.devices condition) = false) :
    store.deleteDevices condition = { store with devices := store.devices.remove condition } := by
  unfold deleteDevices
  dsimp only
  rw [Table.modify_of_none hactions, Table.remove_of_none hsettings]

/-- No device goes, so nothing goes with it. -/
theorem delete_devices_of_none {condition : Entry Device → Bool}
    (hnone : ∀ entry ∈ store.devices.entries, condition entry = false) :
    store.deleteDevices condition = store := by
  rw [delete_devices_unreferenced (fun _ _ => any_deletes_of_none hnone _)
    fun _ _ => any_deletes_of_none hnone _, Table.remove_of_none hnone]

/-- Users go alone if nothing refers to them. -/
theorem delete_users_unreferenced {condition : Entry User → Bool}
    (hdevices : ∀ device ∈ store.devices.entries,
      deletes store.users condition device.row.userId = false)
    (hpodcasts : ∀ podcast ∈ store.podcasts.entries,
      deletes store.users condition podcast.row.userId = false)
    (hsettings : ∀ setting ∈ store.settings.entries,
      deletes store.users condition setting.row.userId = false) :
    store.deleteUsers condition = { store with users := store.users.remove condition } := by
  unfold deleteUsers
  dsimp only
  rw [delete_devices_of_none hdevices, delete_podcasts_of_none hpodcasts,
    Table.remove_of_none hsettings]

/-- The end of a device in one step: the device and its settings are removed, and its actions are
detached. -/
theorem without_device_eq (store : Store) (deviceId : Int) :
    store.withoutDevice deviceId =
      { store with
        devices := store.devices.remove fun entry => entry.id == deviceId
        actions :=
          store.actions.modify (fun action => action.row.deviceId == some deviceId)
            fun action => { action with deviceId := none }
        settings :=
          store.settings.remove fun setting =>
            setting.row.target.device? == some deviceId } := by
  -- After the detachment nothing refers to the device, so the cascade finds nothing.
  have hdetached : ∀ action ∈ (store.actions.modify
      (fun action => action.row.deviceId == some deviceId)
      fun action => { action with deviceId := none }).entries,
      action.row.deviceId ≠ some deviceId := by
    intro action hmem
    obtain ⟨old, _, rfl⟩ := Table.mem_modify.mp hmem
    split
    · exact Option.some_ne_none deviceId |>.symm
    · next hother => simpa using hother
  have hunset : ∀ setting ∈ (store.settings.remove fun setting =>
      setting.row.target.device? == some deviceId).entries,
      setting.row.target.device? ≠ some deviceId := by
    intro setting hmem
    simpa using (Table.mem_remove.mp hmem).2
  unfold withoutDevice deleteSettings
  dsimp only
  refine delete_devices_unreferenced (fun action hmem => ?_) fun setting hmem => ?_
  · refine any_deletes_eq_false fun id hid hgone => hdetached action hmem ?_
    rw [hid, eq_of_deletes_id hgone]
  · refine any_deletes_eq_false fun id hid hgone => hunset setting hmem ?_
    rw [hid, eq_of_deletes_id hgone]

end PodcastLedger.Store
