import PodcastLedger.Proofs.Uploads.Standing

/-!
# Podcasts by address

For subscriptions a podcast that was never subscribed to is as good as none. `Store.podcastAt` reads
an address so: as the podcast in the catalog or, if there is none, as the one that would be added.
Cataloguing changes nothing that is read so (`Store.podcast_at_with_podcast`), turning changes what
is selected (`Store.podcast_at_turned`), and writes of other requests change nothing
(`Store.Writes.podcast_at_eq`). What a listing of podcasts has in it is determined by what is read
so (`Store.Consistent.mem_rows_where`).
-/

namespace PodcastLedger.Store

variable {store next : Store} {userId writerId : Int} {url : String} {urls : List String}
  {selected : String → Bool} {subscribed : Bool} {time : Instant}

/-- The podcast of a user and address or, if there is none, the one that would be added. -/
def podcastAt (store : Store) (userId : Int) (url : String) : Podcast :=
  match store.findPodcast? userId url with
  | some podcast => podcast.row
  | none => .fresh userId url

/-- The podcast that is in the catalog is read. -/
theorem podcast_at_of_find {podcast : Entry Podcast}
    (hfind : store.findPodcast? userId url = some podcast) :
    store.podcastAt userId url = podcast.row := by
  unfold podcastAt
  rw [hfind]

/-- What is not in the catalog is read as a podcast that was never subscribed to. -/
theorem podcast_at_of_find_none (hnone : store.findPodcast? userId url = none) :
    store.podcastAt userId url = .fresh userId url := by
  unfold podcastAt
  rw [hnone]

/-- What is read depends on the podcasts only. -/
theorem podcast_at_of_podcasts_eq (hpodcasts : next.podcasts = store.podcasts) :
    next.podcastAt userId url = store.podcastAt userId url := by
  unfold podcastAt findPodcast?
  rw [hpodcasts]

/-! ## Changes -/

/-- Cataloguing an address, for whichever user, changes nothing that is read. -/
theorem podcast_at_with_podcast {other : String} :
    (store.withPodcast writerId other).podcastAt userId url = store.podcastAt userId url := by
  by_cases hknown : other ∈ store.catalogued writerId
  · rw [with_podcast_of_mem hknown]
  · rw [with_podcast_of_not_mem hknown]
    unfold podcastAt findPodcast?
    rw [Table.find_insert]
    cases store.podcasts.find? fun podcast => podcast.userId == userId && podcast.url == url with
    | some podcast => rfl
    | none =>
        rw [Option.none_or]
        by_cases hadded : writerId = userId ∧ other = url
        · obtain ⟨rfl, rfl⟩ := hadded
          simp [Podcast.fresh]
        · simp [Podcast.fresh, hadded]

/-- Turning changes what is selected, as long as nothing is to be subscribed to that is not in the
catalog. -/
theorem podcast_at_turned
    (hknown : subscribed = true → ∀ url, selected url = true → url ∈ store.catalogued writerId) :
    (store.turned writerId selected subscribed time).podcastAt userId url =
      if userId = writerId ∧ selected url = true then
        (store.podcastAt userId url).turn subscribed time.stored
      else store.podcastAt userId url := by
  cases hfind : store.findPodcast? userId url with
  | none =>
      have hafter : (store.turned writerId selected subscribed time).findPodcast? userId url =
          none := by
        rw [find_podcast_turned, hfind, Option.map_none]
      rw [podcast_at_of_find_none hfind, podcast_at_of_find_none hafter]
      split
      · next hselected =>
          obtain ⟨rfl, hselected⟩ := hselected
          -- An unknown address is selected for the end of a subscription only.
          have hended : subscribed = false := by
            refine Bool.eq_false_iff.mpr fun hadded => ?_
            exact find_podcast_eq_none_iff.mp hfind (hknown hadded url hselected)
          exact (Podcast.turn_of_eq hended.symm _).symm
      · rfl
  | some podcast =>
      have hafter : (store.turned writerId selected subscribed time).findPodcast? userId url =
          some (settle writerId (side selected subscribed) time.stored podcast) := by
        rw [find_podcast_turned, hfind, Option.map_some]
      obtain ⟨_, rfl, rfl⟩ := mem_of_find_podcast hfind
      rw [podcast_at_of_find hfind, podcast_at_of_find hafter]
      split
      · next hselected =>
          rw [settle_of_some hselected.1 (if_pos hselected.2)]
      · next hother =>
          by_cases howner : podcast.row.userId = writerId
          · rw [settle_of_none (if_neg fun hselected => hother ⟨howner, hselected⟩)]
          · rw [settle_of_other howner]

/-- Without a user nothing of this user is in the catalog, and what others have is as before. -/
theorem podcast_at_without_user :
    (store.withoutUser writerId).podcastAt userId url =
      if userId = writerId then .fresh userId url else store.podcastAt userId url := by
  split
  · next hgone =>
      subst hgone
      refine podcast_at_of_find_none (Table.find_eq_none_iff.mpr fun podcast hmem => ?_)
      obtain ⟨_, hother⟩ := Table.mem_remove.mp hmem
      rw [hother, Bool.false_and]
  · next hother =>
      unfold podcastAt findPodcast? withoutUser
      dsimp only
      rw [Table.find_remove]
      intro podcast hfound
      obtain ⟨howner, _⟩ := Bool.and_eq_true_iff.mp hfound
      rw [beq_iff_eq.mp howner]
      exact beq_eq_false_iff_ne.mpr hother

/-- A write that is not of an upload of subscriptions changes nothing that is read. -/
theorem Write.podcast_at_eq (hwrite : store.Write writerId none next) :
    next.podcastAt userId url = store.podcastAt userId url := by
  cases hwrite with
  | insertPodcast _ hnew =>
      rw [← with_podcast_of_not_mem (find_podcast_eq_none_iff.mp hnew)]
      exact podcast_at_with_podcast
  | turn htime => cases htime
  | endDevice =>
      rw [without_device_eq]
      exact podcast_at_of_podcasts_eq rfl
  | insertDevice | describeDevice | insertEpisode | identifyEpisode | insertAction
  | insertSetting | changeSetting | removeSetting => exact podcast_at_of_podcasts_eq rfl

/-- Writes that are not of an upload of subscriptions change nothing that is read. -/
theorem Writes.podcast_at_eq (hwrites : Writes writerId none store next) :
    next.podcastAt userId url = store.podcastAt userId url := by
  induction hwrites with
  | refl => rfl
  | tail _ hwrite ih => rw [hwrite.podcast_at_eq, ih]

/-! ## Listings -/

/-- The podcasts of a user that satisfy a condition, without their ids. -/
def rowsWhere (store : Store) (userId : Int) (wanted : Podcast → Bool) : List Podcast :=
  (store.podcasts.entries.filter fun podcast =>
    podcast.row.userId == userId && wanted podcast.row).map Entry.row

/-- What is listed is what is read and wanted, as long as nothing is wanted that is not in the
catalog. -/
theorem Consistent.mem_rows_where (hconsistent : store.Consistent) {wanted : Podcast → Bool}
    (hknown : ∀ url, wanted (.fresh userId url) = true → url ∈ store.catalogued userId)
    {row : Podcast} :
    row ∈ store.rowsWhere userId wanted ↔
      (∃ url, store.podcastAt userId url = row) ∧ wanted row = true := by
  unfold rowsWhere
  simp only [List.mem_map, List.mem_filter, Bool.and_eq_true, beq_iff_eq]
  constructor
  · rintro ⟨podcast, ⟨hmem, howner, hwanted⟩, rfl⟩
    have hfind := hconsistent.find_podcast_iff.mpr ⟨hmem, howner, rfl⟩
    exact ⟨⟨_, podcast_at_of_find hfind⟩, hwanted⟩
  · rintro ⟨⟨url, rfl⟩, hwanted⟩
    cases hfind : store.findPodcast? userId url with
    | none =>
        rw [podcast_at_of_find_none hfind] at hwanted
        exact absurd (hknown url hwanted) (find_podcast_eq_none_iff.mp hfind)
    | some podcast =>
        rw [podcast_at_of_find hfind] at hwanted ⊢
        obtain ⟨hmem, howner, _⟩ := mem_of_find_podcast hfind
        exact ⟨podcast, ⟨hmem, howner, hwanted⟩, rfl⟩

/-- Nothing is listed twice. -/
theorem Consistent.nodup_rows_where (hconsistent : store.Consistent) (wanted : Podcast → Bool) :
    (store.rowsWhere userId wanted).Nodup := by
  have hkeys : (store.podcasts.entries.map fun podcast =>
      (podcast.row.userId, podcast.row.url)).Nodup := hconsistent.podcasts_unique
  refine List.Nodup.sublist (List.filter_sublist.map Entry.row) ?_
  refine List.Nodup.of_map (fun row : Podcast => (row.userId, row.url)) ?_
  rwa [List.map_map]

/-- What is reported of a turn are the rows that are turned, as they are then. -/
theorem turned_rows_perm :
    ((store.turnedRows userId selected subscribed time).map Entry.row).Perm
      ((store.rowsWhere userId fun row => selected row.url && row.subscribed != subscribed).map
        (·.turn subscribed time.stored)) := by
  refine ((List.mergeSort_perm _ _).map Entry.row).trans ?_
  unfold rowsWhere isTurned
  rw [List.map_map, List.map_map]
  simp only [Bool.and_assoc]
  exact List.Perm.refl _

/-- As many subscriptions are counted as are listed. -/
theorem count_subscriptions_eq :
    store.countSubscriptions userId = (store.rowsWhere userId (·.subscribed)).length := by
  unfold countSubscriptions rowsWhere
  rw [List.countP_eq_length_filter, List.length_map]

/-- The addresses that a user is subscribed to are those of listed rows. -/
theorem subscriptions_eq (store : Store) (name : String) (since : Option Instant) :
    store.subscriptions name since = (do
      let user ← store.loadUser name
      requireBound since .selectSubscriptions
      .ok ((store.rowsWhere user.id fun row =>
        row.subscribed && isAfter since row.updatedAt).map Podcast.url)) := by
  unfold Store.subscriptions rowsWhere
  simp only [Bool.and_assoc, List.map_map]
  rfl

/-- The changes since a time concern a podcast that turned later; without a time they concern what
is subscribed to. -/
def concerns (since : Option Instant) (row : Podcast) : Bool :=
  match since with
  | some _ => isAfter since row.updatedAt
  | none => row.subscribed

/-- A podcast that was never subscribed to is of no concern, unless the time is before the epoch. -/
theorem concerns_fresh {since : Option Instant} (hsince : ∀ bound ∈ since, .epoch ≤ bound) :
    concerns since (.fresh userId url) = false := by
  cases since with
  | none => rfl
  | some bound =>
      have hle : Instant.epoch.stored ≤ bound.stored :=
        Instant.stored_mono (by decide) (hsince bound rfl)
      exact decide_eq_false (Int.not_lt.mpr hle)

/-- The changes that are answered are those of listed rows. -/
theorem subscription_changes_rows {name device : String} {since : Option Instant}
    {changes : SubscriptionChanges}
    (hchanges : store.subscriptionChanges name device since = .ok changes) :
    ∃ user, store.loadUser name = .ok user ∧
      changes.added.map Entry.row =
        store.rowsWhere user.id (fun row => concerns since row && row.subscribed) ∧
      changes.removed.map Entry.row =
        store.rowsWhere user.id fun row => concerns since row && !row.subscribed := by
  simp only [subscriptionChanges, bind_eq_ok_iff] at hchanges
  obtain ⟨user, huser, _, _, _, _, hchanges⟩ := hchanges
  have hconcerned : ∀ selects : Podcast → Bool,
      ((store.podcasts.entries.filter fun podcast =>
        podcast.row.userId == user.id && concerns since podcast.row).filter fun podcast =>
          selects podcast.row).map Entry.row =
        store.rowsWhere user.id fun row => concerns since row && selects row := by
    intro selects
    rw [List.filter_filter]
    refine congrArg (List.map Entry.row) (List.filter_congr fun podcast _ => ?_)
    exact (Bool.and_comm ..).trans (Bool.and_assoc ..)
  rw [List.partition_eq_filter_filter] at hchanges
  obtain rfl := Except.ok.inj hchanges
  cases since <;>
    exact ⟨user, huser, hconcerned (·.subscribed), hconcerned fun row => !row.subscribed⟩

end PodcastLedger.Store
