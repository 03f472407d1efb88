import PodcastLedger.Proofs.Isolation.Devices

/-!
# Subscriptions on both sides

The operations on podcasts and subscriptions agree in the source and in the copy. The podcasts of
the user are selected and listed in the same order on both sides.
-/

namespace PodcastLedger

namespace Translation

/-- The result of an upload of subscriptions in the source. -/
def update (translation : Translation) (update : SubscriptionUpdate) : SubscriptionUpdate :=
  { update with
    subscribed := update.subscribed.map translation.podcast
    unsubscribed := update.unsubscribed.map translation.podcast }

/-- Changes of subscriptions in the source. -/
def changes (translation : Translation) (changes : SubscriptionChanges) : SubscriptionChanges :=
  ⟨changes.added.map translation.podcast, changes.removed.map translation.podcast⟩

end Translation

namespace Store

variable {translation : Translation} {user : Entry User} {source copy : Store} {name : String}

/-! ## Podcasts -/

/-- A podcast is selected on both sides. -/
theorem Mirrors.select_podcast (hmirrors : Mirrors translation user source copy) (url : String) :
    Agree (fun first second => first = second.map translation.podcast)
      (source.selectPodcast translation.userId url) (copy.selectPodcast user.id url) := by
  unfold selectPodcast
  refine (Agree.refl _).bind fun _ _ _ _ _ => ?_
  exact hmirrors.find_podcast url

/-- A podcast is selected on both sides by what a client sent. -/
theorem Mirrors.select_raw_podcast (hmirrors : Mirrors translation user source copy)
    (raw : String) :
    Agree (fun first second => first = second.map translation.podcast)
      (source.selectRawPodcast translation.userId raw) (copy.selectRawPodcast user.id raw) := by
  unfold selectRawPodcast
  cases Web.canonical? raw with
  | none => exact rfl
  | some url => exact hmirrors.select_podcast url

/-- A podcast is found or added on both sides. -/
theorem Mirrors.insert_podcast_agree (hmirrors : Mirrors translation user source copy)
    (url : String) :
    Agree (Both translation user fun first second => first = translation.podcast second)
      (source.insertPodcast translation.userId url) (copy.insertPodcast user.id url) := by
  unfold insertPodcast
  have hrequire := agree_require
    (and_congr_right fun _ => and_congr_right fun _ =>
      iff_of_true hmirrors.source_has hmirrors.copy_has :
      (IsBindable url ∧ IsWebUrl url ∧ source.users.Has translation.userId) ↔
        IsBindable url ∧ IsWebUrl url ∧ copy.users.Has user.id) .insertPodcast
  refine hrequire.bind fun _ _ _ _ _ => ?_
  rw [hmirrors.find_podcast]
  cases hfind : copy.findPodcast? user.id url with
  | some podcast => exact ⟨hmirrors, rfl⟩
  | none =>
      refine ⟨hmirrors.insert_podcast hfind, ?_⟩
      simp [Translation.podcast, Translation.podcastRow, Podcast.fresh, Entry.rename,
        hmirrors.podcasts.next]

/-- Podcasts are found or added on both sides, one after the other. -/
theorem Mirrors.insert_podcasts (hmirrors : Mirrors translation user source copy)
    (urls : List String) :
    Agree (Mirrors translation user) (source.insertPodcasts translation.userId urls)
      (copy.insertPodcasts user.id urls) := by
  induction urls generalizing source copy with
  | nil => exact hmirrors
  | cons url urls ih =>
      unfold insertPodcasts
      exact bind_both (hmirrors.insert_podcast_agree url) fun _ _ hafter _ => ih hafter

/-- The podcasts of the user that satisfy a condition are the same on both sides. -/
theorem Mirrors.filter_podcasts (hmirrors : Mirrors translation user source copy)
    (condition : Podcast → Bool)
    (hsame : ∀ podcast, condition (translation.podcastRow podcast) = condition podcast) :
    source.podcasts.entries.filter (fun podcast =>
        podcast.row.userId == translation.userId && condition podcast.row) =
      (copy.podcasts.entries.filter fun podcast =>
        podcast.row.userId == user.id && condition podcast.row).map translation.podcast := by
  refine hmirrors.podcasts.filter_eq (fun podcast _ hfound => ?_) fun podcast hmem => ?_
  · exact (Bool.and_eq_true_iff.mp hfound).1
  · rw [hmirrors.podcast_owner hmem, Entry.row_rename, hsame]
    simp [Translation.podcastRow]

/-- A podcast of the user is turned in the source as it is in the copy. -/
theorem turn_podcast_row (translation : Translation) (podcast : Podcast) (subscribed : Bool)
    (time : Instant) :
    (translation.podcastRow podcast).turn subscribed time =
      translation.podcastRow (podcast.turn subscribed time) := by
  unfold Podcast.turn Translation.podcastRow
  split <;> rfl

/-- Podcasts are turned on both sides. -/
theorem Mirrors.turn_podcasts (hmirrors : Mirrors translation user source copy)
    (selected : String → Bool) (subscribed : Bool) (time : Instant) :
    Agree (Both translation user fun first second => first = second.map translation.podcast)
      (source.turnPodcasts translation.userId selected subscribed time)
      (copy.turnPodcasts user.id selected subscribed time) := by
  let turned := fun podcast : Entry Podcast =>
    (⟨podcast.id, podcast.row.turn subscribed time.stored⟩ : Entry Podcast)
  let before := fun first second : Entry Podcast => decide (first.row.url ≤ second.row.url)
  have hfilter :
      source.podcasts.entries.filter (isTurned translation.userId selected subscribed) =
        (copy.podcasts.entries.filter (isTurned user.id selected subscribed)).map
          translation.podcast := by
    refine hmirrors.podcasts.filter_eq (fun podcast _ hfound => ?_) fun podcast hmem => ?_
    · exact (Bool.and_eq_true_iff.mp (Bool.and_eq_true_iff.mp hfound).1).1
    · unfold isTurned
      rw [hmirrors.podcast_owner hmem]
      simp [Translation.podcastRow]
  have hrequire :
      source.podcasts.entries.filter (isTurned translation.userId selected subscribed) = [] ∨
          time.IsStorable ↔
        copy.podcasts.entries.filter (isTurned user.id selected subscribed) = [] ∨
          time.IsStorable := by
    rw [hfilter, List.map_eq_nil_iff]
  have hsort :
      ((source.podcasts.entries.filter (isTurned translation.userId selected subscribed)).map
          turned).mergeSort before =
        (((copy.podcasts.entries.filter (isTurned user.id selected subscribed)).map
          turned).mergeSort before).map translation.podcast := by
    -- Sorting looks at addresses only, which the translation keeps.
    have hturned : turned ∘ translation.podcast = translation.podcast ∘ turned := by
      funext podcast
      exact congrArg (Entry.mk _)
        (turn_podcast_row translation podcast.row subscribed time.stored)
    have hbefore : ∀ first second,
        before (translation.podcast first) (translation.podcast second) = before first second :=
      fun _ _ => rfl
    rw [hfilter, List.map_map, hturned, ← List.map_map, sort_map hbefore]
  unfold turnPodcasts
  refine (agree_require hrequire .updateSubscription).bind fun _ _ _ _ _ => ?_
  exact ⟨hmirrors.turn selected subscribed time.stored, hsort⟩

/-! ## Subscriptions -/

/-- The list of subscriptions is replaced on both sides. -/
theorem Loads.replace_subscriptions (hloads : Loads translation user name source copy)
    (device : String) (timestamp : Instant) (raws : List String) :
    Agree (Both translation user fun first second => first = translation.update second)
      (source.replaceSubscriptions name device timestamp raws)
      (copy.replaceSubscriptions name device timestamp raws) := by
  unfold replaceSubscriptions
  refine (Agree.refl _).bind fun _ _ _ _ _ => ?_
  refine hloads.bind fun hmirrors => ?_
  refine bind_both (hmirrors.register_device device) fun _ _ hregistered _ => ?_
  refine bind_both (hregistered.turn_podcasts _ false timestamp) fun _ _ hended hunsubscribed => ?_
  refine (hended.insert_podcasts _).bind fun _ _ _ _ hinserted => ?_
  refine bind_both (hinserted.turn_podcasts _ true timestamp) fun _ _ hturned hsubscribed => ?_
  subst hunsubscribed hsubscribed
  exact ⟨hturned, rfl⟩

/-- Subscriptions are added and ended on both sides. -/
theorem Loads.change_subscriptions (hloads : Loads translation user name source copy)
    (device : String) (timestamp : Instant) (add remove : List String) :
    Agree (Both translation user fun first second => first = translation.update second)
      (source.changeSubscriptions name device timestamp add remove)
      (copy.changeSubscriptions name device timestamp add remove) := by
  unfold changeSubscriptions
  refine (Agree.refl _).bind fun _ _ _ _ _ => ?_
  dsimp only
  cases (Web.canonicalAll add).find? (Web.canonicalAll remove).contains with
  | some url => exact rfl
  | none =>
      refine hloads.bind fun hmirrors => ?_
      refine bind_both (hmirrors.register_device device) fun _ _ hregistered _ => ?_
      refine (hregistered.insert_podcasts _).bind fun _ _ _ _ hinserted => ?_
      refine bind_both (hinserted.turn_podcasts _ true timestamp) fun _ _ hturned hsubscribed => ?_
      refine bind_both (hturned.turn_podcasts _ false timestamp) fun _ _ hended hunsubscribed => ?_
      subst hunsubscribed hsubscribed
      exact ⟨hended, rfl⟩

/-- Podcasts are on the same side in the source and in the copy. -/
theorem partition_podcasts (translation : Translation) (podcasts : List (Entry Podcast)) :
    (podcasts.map translation.podcast).partition (fun podcast => podcast.row.subscribed) =
      ((podcasts.partition fun podcast => podcast.row.subscribed).1.map translation.podcast,
        (podcasts.partition fun podcast => podcast.row.subscribed).2.map translation.podcast) := by
  rw [List.partition_eq_filter_filter, List.partition_eq_filter_filter, List.filter_map,
    List.filter_map]
  rfl

/-- The changes of subscriptions are the same on both sides. -/
theorem Loads.subscription_changes (hloads : Loads translation user name source copy)
    (device : String) (since : Option Instant) :
    Agree
      (Kept translation user source copy fun first second => first = translation.changes second)
      (source.subscriptionChanges name device since)
      (copy.subscriptionChanges name device since) := by
  unfold subscriptionChanges
  refine hloads.bind_kept fun hmirrors => ?_
  refine (hmirrors.load_device device).bind fun _ _ _ _ _ => ?_
  refine (Agree.refl _).bind fun _ _ _ _ _ => ?_
  cases since with
  | none =>
      have hfilter := hmirrors.filter_podcasts (·.subscribed) fun _ => rfl
      dsimp only
      rw [Translation.id_user, hfilter, partition_podcasts]
      exact rfl
  | some bound =>
      have hfilter := hmirrors.filter_podcasts (isAfter (some bound) ·.updatedAt) fun _ => rfl
      dsimp only
      rw [Translation.id_user, hfilter, partition_podcasts]
      exact rfl

/-- The subscriptions are the same on both sides. -/
theorem Loads.subscriptions (hloads : Loads translation user name source copy)
    (since : Option Instant) :
    Agree (Kept translation user source copy Eq) (source.subscriptions name since)
      (copy.subscriptions name since) := by
  unfold Store.subscriptions
  refine hloads.bind_kept fun hmirrors => ?_
  refine (Agree.refl _).bind fun _ _ _ _ _ => ?_
  have hfilter := hmirrors.filter_podcasts
    (fun podcast => podcast.subscribed && isAfter since podcast.updatedAt) fun _ => rfl
  dsimp only
  simp only [Bool.and_assoc]
  rw [Translation.id_user, hfilter, List.map_map]
  exact rfl

end Store

end PodcastLedger
