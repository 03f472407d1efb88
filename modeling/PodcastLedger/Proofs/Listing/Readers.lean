import PodcastLedger.Proofs.Listing.Selection
import PodcastLedger.Proofs.Settings.Bindings

/-!
# Readers for one purpose

Two requests answer what a client could put together from the listing and the settings. The last
action of a podcast is the first view of the listing of the podcast, the latest first, that is
wanted; the favorites are the last actions of all episodes without those of the episodes that their
settings do not mark. `Store.readers_agree` says so of every reachable store.
-/

namespace PodcastLedger

namespace ActionQuery

/-- The query for the actions of a podcast, the latest first. -/
def ofPodcast (raw : String) : ActionQuery :=
  ⟨false, none, none, .descending, some raw, none⟩

/-- The query for the last action of each episode, the latest first. -/
def ofEpisodes : ActionQuery :=
  ⟨true, none, none, .descending, none, none⟩

end ActionQuery

namespace ActionView

variable {views others : List ActionView}

/-- The view is wanted, which a deletion is not if deletions are excluded. -/
def wanted (excludeDeleted : Bool) (view : ActionView) : Bool :=
  !(excludeDeleted && view.action == ActionKind.delete.name)

/-- There is nothing to sort in no views. -/
@[simp] theorem sort_nil (order : SortOrder) : sort order [] = [] :=
  (sort_perm order []).eq_nil

/-- To sort some of the views is to select them from the sorted ones. -/
theorem filter_sort (order : SortOrder) (hdistinct : Distinct views) (kept : ActionView → Bool) :
    (sort order views).filter kept = sort order (views.filter kept) := by
  have hsorted : InOrder order ((sort order views).filter kept) := by
    have hall := in_order_sort order hdistinct
    cases order with
    | ascending => exact List.Pairwise.filter _ hall
    | descending => exact List.Pairwise.filter _ hall
  refine eq_of_in_order order hsorted
    (in_order_sort order (hdistinct.sublist List.filter_sublist)) ?_
  exact ((sort_perm order views).filter kept).trans (sort_perm order _).symm

/-- The last views of some episodes are those of all episodes without the others. -/
theorem last_of_episodes_filter (views : List ActionView) (kept : Int → Bool) :
    lastOfEpisodes (views.filter fun view => kept view.episodeId) =
      (lastOfEpisodes views).filter fun view => kept view.episodeId := by
  unfold lastOfEpisodes
  rw [List.filter_filter, List.filter_filter]
  refine List.filter_congr fun view _ => ?_
  cases hkept : kept view.episodeId with
  | false => rw [Bool.and_false, Bool.false_and]
  | true =>
      rw [Bool.and_true, Bool.true_and, List.all_filter]
      -- The views of one episode are kept together, so no later view is overlooked.
      refine congrArg views.all (funext fun other => ?_)
      by_cases hepisode : other.episodeId = view.episodeId
      · rw [hepisode, hkept, Bool.not_true, Bool.false_or]
      · simp [hepisode]

/-- The last views are as distinct as all of them. -/
theorem Distinct.latest (hdistinct : Distinct views) : Distinct (latest views) :=
  (latest_of_latest views).distinct hdistinct.identified

/-- To sort the last views of some episodes is to select them from the sorted last views. -/
theorem sort_latest_filter (order : SortOrder) (hdistinct : Distinct views) (kept : Int → Bool) :
    sort order (latest (views.filter fun view => kept view.episodeId)) =
      (sort order (latest views)).filter fun view => kept view.episodeId := by
  have hsome := latest_perm (hdistinct.sublist List.filter_sublist)
    (List.Perm.refl (views.filter fun view => kept view.episodeId))
  have hall := latest_perm hdistinct (List.Perm.refl views)
  rw [last_of_episodes_filter] at hsome
  rw [filter_sort order hdistinct.latest]
  exact sort_eq_of_perm order (hdistinct.latest.sublist List.filter_sublist)
    (hsome.trans (hall.filter _).symm)

/-- The last views are of different episodes. -/
theorem nodup_sort_latest (order : SortOrder) (views : List ActionView) :
    ((sort order (latest views)).map ActionView.episodeId).Nodup :=
  ((sort_perm order _).map _).nodup_iff.mpr
    (List.pairwise_map.mpr (latest_of_latest views).episodes)

end ActionView

namespace Store

variable {store : Store} {userId : Int} {user : Entry User} {action : Entry EpisodeAction}
  {view : ActionView}

/-! ## The last action of a podcast -/

/-- The name of a kind of action names no other one. -/
theorem name_eq_iff {first second : ActionKind} : first.name = second.name ↔ first = second := by
  refine ⟨fun hname => ?_, congrArg _⟩
  rw [← Option.some_inj, ← ActionKind.ofText?_name, ← ActionKind.ofText?_name, hname]

/-- A view shows the kind and the episode of its row. -/
theorem view_shows (hview : store.view? userId action = some view) :
    view.action = action.row.kind.name ∧ view.episodeId = action.row.episodeId := by
  unfold view? at hview
  simp only [bind, Option.bind_eq_some_iff] at hview
  obtain ⟨podcast, _, episode, _, hview⟩ := hview
  split at hview
  · cases hview
    exact ⟨rfl, rfl⟩
  · cases hview

/-- The actions of a podcast are listed as they are sorted. -/
theorem Consistent.list_of_podcast (hconsistent : store.Consistent)
    (hmem : user ∈ store.users.entries) (raw : String) :
    store.listActions user.row.name (.ofPodcast raw) =
      .ok (ActionView.sort .descending ((store.views user.id fun _ => true).filter
        (ActionQuery.ofPodcast raw).selects)) :=
  hconsistent.list_actions_unbounded hmem rfl rfl

/-- The last action of a podcast is the first one listed of those that are wanted. -/
theorem Consistent.last_action_eq (hconsistent : store.Consistent)
    (hmem : user ∈ store.users.entries) (raw : String) (excludeDeleted : Bool) :
    store.lastAction user.row.name raw excludeDeleted =
      ((ActionView.sort .descending ((store.views user.id fun _ => true).filter
        (ActionQuery.ofPodcast raw).selects)).find? (ActionView.wanted excludeDeleted)).elim
          (.error (.noActions raw)) .ok := by
  unfold lastAction
  rw [hconsistent.load_user hmem]
  simp only [bind, Except.bind, select_raw_podcast_eq]
  cases hfind : (Web.canonical? raw).bind (store.findPodcast? user.id) with
  | none =>
      rw [selected_eq_nil rfl hfind, ActionView.sort_nil]
      rfl
  | some podcast =>
      obtain ⟨url, hcanonical, hpodcast⟩ := Option.bind_eq_some_iff.mp hfind
      have hviews : (store.views user.id fun action =>
          action.podcastId == podcast.id && !(excludeDeleted && action.kind == .delete)) =
            ((store.views user.id fun _ => true).filter
              (ActionQuery.ofPodcast raw).selects).filter (ActionView.wanted excludeDeleted) := by
        rw [List.filter_filter]
        refine views_eq_filter fun action _ view hview => ?_
        have hiff := hconsistent.view_podcast_iff hview hpodcast
        have hof : (action.row.podcastId == podcast.id) =
            (ActionQuery.ofPodcast raw).selects view := by
          rw [Bool.eq_iff_iff, beq_iff_eq, ← hiff]
          simp [ActionQuery.selects, ActionQuery.ofPodcast, hcanonical, isAfter]
        have hkind : (action.row.kind == ActionKind.delete) =
            (view.action == ActionKind.delete.name) := by
          rw [(view_shows hview).1, Bool.eq_iff_iff, beq_iff_eq, beq_iff_eq, name_eq_iff]
        rw [hof, hkind, Bool.and_comm]
        rfl
      dsimp only
      rw [hviews, ← ActionView.filter_sort _ ((distinct_views _).sublist List.filter_sublist),
        List.head?_filter]
      cases List.find? _ _ <;> rfl

/-! ## Favorites -/

/-- What a key that names an episode is resolved to: the episode with its podcast. -/
def episodeKey? (store : Store) (episodeId : Int) : Option ResolvedKey := do
  let episode ← store.episodes.get? episodeId
  let podcast ← store.podcasts.get? episode.row.podcastId
  some (.episode podcast episode)

/-- A key stands for the episode of an id exactly if it is the one of the episode and its
podcast. -/
theorem episode_key_iff {episodeId : Int} {resolved : ResolvedKey} :
    store.episodeKey? episodeId = some resolved ↔
      ∃ podcast ∈ store.podcasts.entries, ∃ episode ∈ store.episodes.entries,
        episode.id = episodeId ∧ podcast.id = episode.row.podcastId ∧
          resolved = .episode podcast episode := by
  simp only [episodeKey?, bind, Option.bind_eq_some_iff, Option.some_inj, Table.get?_eq_some_iff]
  constructor
  · rintro ⟨episode, ⟨hepisode, hid⟩, podcast, ⟨hpodcast, hof⟩, rfl⟩
    exact ⟨podcast, hpodcast, episode, hepisode, hid, hof, rfl⟩
  · rintro ⟨podcast, hpodcast, episode, hepisode, hid, hof, rfl⟩
    exact ⟨episode, ⟨hepisode, hid⟩, podcast, ⟨hpodcast, hof⟩, rfl⟩

/-- The settings of an episode mark it as a favorite. -/
def isFavorite (store : Store) (userId episodeId : Int) : Bool :=
  (store.episodeKey? episodeId).any fun resolved =>
    (store.settingsOf userId resolved.target).lookup favoriteKey == some "true"

/-- The marks of favorites are the settings with the key and the value that mark them. -/
theorem is_favorite_mark_iff {setting : Setting} :
    isFavoriteMark userId setting = true ↔
      setting.userId = userId ∧ setting.target.scope = .episode ∧ setting.key = favoriteKey ∧
        setting.value = "true" := by
  simp only [isFavoriteMark, Bool.and_eq_true, beq_iff_eq, and_assoc]

/-- The marks of the user name an episode exactly if its settings mark it as a favorite. -/
theorem Consistent.is_favorite_iff (hconsistent : store.Consistent) {episodeId : Int} :
    store.isFavorite userId episodeId = true ↔
      ∃ setting ∈ store.settings.entries,
        isFavoriteMark userId setting.row = true ∧
          setting.row.target.episode? = some episodeId := by
  simp only [isFavorite, Option.any_eq_true, beq_iff_eq, hconsistent.lookup_settings_of,
    hconsistent.setting_eq_some_iff, mem_bindings, is_favorite_mark_iff]
  constructor
  · rintro ⟨resolved, hresolved, setting, hmem, hsetting, hvalue⟩
    obtain ⟨podcast, _, episode, _, rfl, _, rfl⟩ := episode_key_iff.mp hresolved
    obtain ⟨howner, htarget, hkey⟩ := is_setting_iff.mp hsetting
    refine ⟨setting, hmem, ⟨howner, ?_, hkey, hvalue⟩, ?_⟩
    · rw [htarget]
      rfl
    · rw [htarget]
      rfl
  · rintro ⟨setting, hmem, ⟨howner, hscope, hkey, hvalue⟩, hnames⟩
    obtain ⟨_, howns⟩ := hconsistent.settings_owned setting hmem
    obtain ⟨podcastId, htarget⟩ :
        ∃ podcastId, setting.row.target = .episode podcastId episodeId := by
      cases hcase : setting.row.target with
      | account | device | podcast =>
          rw [hcase] at hscope
          cases hscope
      | episode podcastId otherId =>
          rw [hcase] at hnames
          cases hnames
          exact ⟨podcastId, rfl⟩
    rw [htarget] at howns
    obtain ⟨⟨podcast, hpodcast, hpodcastId, _⟩, episode, hepisode, hepisodeId, hof⟩ := howns
    have hresolved : store.episodeKey? episodeId = some (.episode podcast episode) :=
      episode_key_iff.mpr ⟨podcast, hpodcast, episode, hepisode, hepisodeId,
        hpodcastId.trans hof.symm, rfl⟩
    refine ⟨_, hresolved, setting, hmem, is_setting_iff.mpr ⟨howner, ?_, hkey⟩, hvalue⟩
    rw [htarget, ← hpodcastId, ← hepisodeId]
    rfl

/-- The last actions of all episodes are listed as they are sorted. -/
theorem Consistent.list_of_episodes (hconsistent : store.Consistent)
    (hmem : user ∈ store.users.entries) :
    store.listActions user.row.name .ofEpisodes =
      .ok (ActionView.sort .descending
        (ActionView.latest (store.views user.id fun _ => true))) := by
  have hall : (store.views user.id fun _ => true).filter ActionQuery.ofEpisodes.selects =
      store.views user.id fun _ => true := List.filter_eq_self.mpr fun _ _ => rfl
  rw [hconsistent.list_actions_unbounded hmem rfl rfl, hall]
  rfl

/-- The favorites are selected from the last actions of all episodes. -/
theorem Consistent.favorites_eq (hconsistent : store.Consistent)
    (hmem : user ∈ store.users.entries) :
    store.favorites user.row.name =
      .ok ((ActionView.sort .descending
        (ActionView.latest (store.views user.id fun _ => true))).filter
          fun view => store.isFavorite user.id view.episodeId) := by
  have hmarked : ∀ episodeId, ((store.settings.entries.filter fun setting =>
      isFavoriteMark user.id setting.row).filterMap fun setting =>
        setting.row.target.episode?).contains episodeId = store.isFavorite user.id episodeId := by
    intro episodeId
    rw [Bool.eq_iff_iff, List.contains_iff_mem, hconsistent.is_favorite_iff]
    simp only [List.mem_filterMap, List.mem_filter, and_assoc]
  have hviews : (store.views user.id fun action => store.isFavorite user.id action.episodeId) =
      (store.views user.id fun _ => true).filter
        fun view => store.isFavorite user.id view.episodeId :=
    views_eq_filter fun action _ view hview => by rw [(view_shows hview).2]
  unfold favorites
  rw [hconsistent.load_user hmem]
  simp only [bind, Except.bind, hmarked]
  rw [hviews, ActionView.sort_latest_filter .descending (distinct_views _)]

/-- An episode is among the last actions of all episodes exactly if it has actions. -/
theorem Consistent.has_last_iff (hconsistent : store.Consistent) {podcast : Entry Podcast}
    {episode : Entry Episode} (hpodcast : podcast ∈ store.podcasts.entries)
    (howner : podcast.row.userId = userId) (hepisode : episode ∈ store.episodes.entries)
    (hof : episode.row.podcastId = podcast.id) :
    (∃ view ∈ ActionView.latest (store.views userId fun _ => true),
        view.episodeId = episode.id) ↔
      ∃ action ∈ store.actions.entries, action.row.episodeId = episode.id := by
  have hlatest := ActionView.latest_of_latest (store.views userId fun _ => true)
  constructor
  · rintro ⟨view, hview, hid⟩
    obtain ⟨action, haction, hshown⟩ := List.mem_filterMap.mp (hlatest.found view hview)
    rw [List.filter_true] at haction
    exact ⟨action, haction, (view_shows hshown).2.symm.trans hid⟩
  · rintro ⟨action, haction, hid⟩
    obtain ⟨ownerId, _, hplaces⟩ := hconsistent.actions_placed action haction
    have hsame := hplaces.episode.podcast_unique ⟨episode, hepisode, hid.symm, hof⟩
    obtain ⟨view, hview⟩ := hconsistent.view_of_owned haction
      ⟨podcast, hpodcast, hsame.symm, howner⟩
    have hfound : view ∈ store.views userId fun _ => true :=
      List.mem_filterMap.mpr ⟨action, by rwa [List.filter_true], hview⟩
    obtain ⟨last, hlast, hepisodeId, _⟩ := hlatest.covers view hfound
    exact ⟨last, hlast, hepisodeId.trans ((view_shows hview).2.trans hid)⟩

/-- The readers for one purpose agree with the listing and the settings. The last action of a
podcast is the first wanted view of the listing of the podcast, and there is none exactly if the
podcast is not known or no view is wanted. The favorites are the last actions of all episodes,
without those of the episodes that their own settings do not mark; each episode is there once, and
only if it has actions. -/
theorem readers_agree (hreachable : store.Reachable) (hmem : user ∈ store.users.entries) :
    (∀ raw excludeDeleted, ∃ listed,
      store.listActions user.row.name (.ofPodcast raw) = .ok listed ∧
      store.lastAction user.row.name raw excludeDeleted =
        (listed.find? (ActionView.wanted excludeDeleted)).elim (.error (.noActions raw)) .ok ∧
      (store.lastAction user.row.name raw excludeDeleted = .error (.noActions raw) ↔
        (Web.canonical? raw).bind (store.findPodcast? user.id) = none ∨
          ∀ view ∈ listed, view.wanted excludeDeleted = false)) ∧
    ∃ listed marked,
      store.listActions user.row.name .ofEpisodes = .ok listed ∧
      store.favorites user.row.name = .ok marked ∧
      marked = listed.filter (fun view => store.isFavorite user.id view.episodeId) ∧
      (marked.map ActionView.episodeId).Nodup ∧
      ∀ podcast ∈ store.podcasts.entries, podcast.row.userId = user.id →
        ∀ episode ∈ store.episodes.entries, episode.row.podcastId = podcast.id →
          ((∃ view ∈ marked, view.episodeId = episode.id) ↔
            store.isFavorite user.id episode.id = true ∧
              ∃ action ∈ store.actions.entries, action.row.episodeId = episode.id) := by
  have hconsistent := hreachable.consistent
  refine ⟨fun raw excludeDeleted => ⟨_, hconsistent.list_of_podcast hmem raw,
    hconsistent.last_action_eq hmem raw excludeDeleted, ?_⟩, ?_⟩
  · rw [hconsistent.last_action_eq hmem raw excludeDeleted]
    constructor
    · intro hfails
      refine .inr fun view hview => ?_
      cases hfind : List.find? (ActionView.wanted excludeDeleted) _ with
      | none => exact Bool.eq_false_iff.mpr (List.find?_eq_none.mp hfind view hview)
      | some found =>
          rw [hfind] at hfails
          cases hfails
    · rintro (hunknown | hunwanted)
      · rw [selected_eq_nil rfl hunknown, ActionView.sort_nil]
        rfl
      · rw [List.find?_eq_none.mpr fun view hview => Bool.eq_false_iff.mp (hunwanted view hview)]
        rfl
  · refine ⟨_, _, hconsistent.list_of_episodes hmem, hconsistent.favorites_eq hmem, rfl, ?_, ?_⟩
    · exact List.Nodup.sublist (List.filter_sublist.map _) (ActionView.nodup_sort_latest _ _)
    · intro podcast hpodcast howner episode hepisode hof
      rw [← hconsistent.has_last_iff hpodcast howner hepisode hof]
      simp only [List.mem_filter, (ActionView.sort_perm .descending _).mem_iff]
      constructor
      · rintro ⟨view, ⟨hview, hmarked⟩, hid⟩
        exact ⟨hid ▸ hmarked, view, hview, hid⟩
      · rintro ⟨hmarked, view, hview, hid⟩
        exact ⟨view, ⟨hview, hid ▸ hmarked⟩, hid⟩

/-- A user plays an episode and deletes it at the same time, downloads another one of the podcast,
ends the device, and marks the first episode and the podcast. -/
def markedEpisode : List (String × Request) :=
  let upload := fun kind device number seconds => ActionUpload.mk kind device
    ("http://a.example/" ++ number) none "http://a.example/feed" none none (.ofUnix seconds) none
  let key := fun scope => KeyTexts.mk scope none (some "http://a.example/feed")
    (some "http://a.example/1")
  [("ann", .createUser "long enough" 10),
    ("ann", .addActions [upload "play" (some "phone") "1" 2000, upload "delete" none "1" 2000,
      upload "download" (some "phone") "2" 1500]),
    ("ann", .destroyDevice "phone"),
    ("ann", .saveSettings (key "episode") [(favoriteKey, "true")] []),
    ("ann", .saveSettings (key "podcast") [(favoriteKey, "true")] [])]

/-- The deletion is the last action of the only favorite. Without deletions the last action of the
podcast is that the episode was played. -/
theorem readers_of_marked_episode :
    let store := (Store.empty.run markedEpisode).1
    ∃ listed marked played,
      store.listActions "ann" .ofEpisodes = .ok listed ∧ listed.map ActionView.id = [2, 3] ∧
      store.favorites "ann" = .ok marked ∧ marked.map ActionView.id = [2] ∧
      store.lastAction "ann" "HTTP://A.example/feed#top" true = .ok played ∧ played.id = 1 := by
  intro store
  have hreachable : store.Reachable := Reachable.empty.run markedEpisode
  let user : Entry User := ⟨1, "ann", false, 10⟩
  let view := fun id episodeId kind number seconds => ActionView.mk id episodeId kind none
    ("http://a.example/" ++ number) none "http://a.example/feed" none none (.ofUnix seconds) none
  obtain ⟨hmem, hviews, hsettings⟩ : user ∈ store.users.entries ∧
      (store.views user.id fun _ => true) =
        [view 1 1 "play" "1" 2000, view 2 1 "delete" "1" 2000, view 3 2 "download" "2" 1500] ∧
      store.settings.entries = [⟨1, 1, .episode 1 1, favoriteKey, "true"⟩,
        ⟨2, 1, .podcast 1, favoriteKey, "true"⟩] := by
    decide +kernel
  clear_value store
  have hconsistent := hreachable.consistent
  obtain ⟨hlast, listed, marked, hlist, hfavorites, hmarked, _, _⟩ :=
    readers_agree hreachable hmem
  obtain ⟨actions, hactions, hplayed, _⟩ := hlast "HTTP://A.example/feed#top" true
  -- What is found is sorted to what is in descending order.
  have hsort {found sorted : List ActionView} (hdistinct : ActionView.Distinct found)
      (hperm : sorted.Perm found) (horder : ActionView.InOrder .descending sorted) :
      ActionView.sort .descending found = sorted :=
    ActionView.eq_of_in_order .descending (ActionView.in_order_sort _ hdistinct) horder
      ((ActionView.sort_perm _ _).trans hperm.symm)
  have hlisted : listed = [view 2 1 "delete" "1" 2000, view 3 2 "download" "2" 1500] := by
    rw [Except.ok.inj (hlist.symm.trans (hconsistent.list_of_episodes hmem)), hviews]
    refine hsort ?_ ?_ ?_
    · unfold ActionView.Distinct
      decide +kernel
    · decide +kernel
    · unfold ActionView.InOrder
      decide +kernel
  have hall : actions =
      [view 2 1 "delete" "1" 2000, view 1 1 "play" "1" 2000, view 3 2 "download" "2" 1500] := by
    rw [Except.ok.inj (hactions.symm.trans (hconsistent.list_of_podcast hmem _)), hviews]
    refine hsort ?_ ?_ ?_
    · unfold ActionView.Distinct
      decide +kernel
    · decide +kernel
    · unfold ActionView.InOrder
      decide +kernel
  have hfavorite (episodeId : Int) : store.isFavorite user.id episodeId = (episodeId == 1) := by
    rw [Bool.eq_iff_iff, hconsistent.is_favorite_iff, hsettings]
    simp [is_favorite_mark_iff, Target.scope, Target.episode?, user, @eq_comm _ 1 episodeId]
  refine ⟨listed, marked, view 1 1 "play" "1" 2000, hlist, ?_, hfavorites, ?_, ?_, rfl⟩
  · rw [hlisted]
    rfl
  · rw [hmarked, hlisted]
    simp only [hfavorite]
    rfl
  · rw [hplayed, hall]
    rfl

end Store

end PodcastLedger
