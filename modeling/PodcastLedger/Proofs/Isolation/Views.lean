import PodcastLedger.Proofs.Isolation.Settings

/-!
# Listings on both sides

The listings of episode actions agree in the source and in the copy. Views are ordered by time and
then by id, and the translation of ids keeps their order, so nothing changes places: not when views
are sorted, and not when only the latest of an episode is kept.
-/

namespace PodcastLedger

/-- A view in the source. -/
def Translation.view (translation : Translation) (view : ActionView) : ActionView :=
  { view with
    id := translation.actions view.id
    episodeId := translation.episodes view.episodeId }

namespace ActionView

/-- The change of views keeps their order, and which of them are of one episode. -/
structure KeepsOrder (change : ActionView → ActionView) : Prop where
  before : ∀ first second, (change first).Before (change second) ↔ first.Before second
  episode : ∀ first second,
    (change first).episodeId = (change second).episodeId ↔ first.episodeId = second.episodeId

variable {change : ActionView → ActionView}

/-- A changed view is put among the changed latest ones in its place. -/
theorem KeepsOrder.insert_latest (hkeeps : KeepsOrder change) (view : ActionView)
    (views : List ActionView) :
    insertLatest (change view) (views.map change) = (insertLatest view views).map change := by
  induction views with
  | nil => rfl
  | cons current rest ih =>
      simp only [List.map_cons, insertLatest, hkeeps.episode, hkeeps.before, ih]
      split
      · split <;> rfl
      · rfl

/-- The latest of changed views are the latest views, changed. -/
theorem KeepsOrder.latest (hkeeps : KeepsOrder change) (views : List ActionView) :
    latest (views.map change) = (latest views).map change := by
  have hfold : ∀ (views kept : List ActionView),
      (views.map change).foldl (fun kept view => insertLatest view kept) (kept.map change) =
        (views.foldl (fun kept view => insertLatest view kept) kept).map change := by
    intro views
    induction views with
    | nil => exact fun _ => rfl
    | cons view views ih =>
        intro kept
        rw [List.map_cons, List.foldl_cons, List.foldl_cons, hkeeps.insert_latest, ih]
  exact hfold views []

/-- Changed views are sorted as the views are. -/
theorem KeepsOrder.sort (hkeeps : KeepsOrder change) (order : SortOrder)
    (views : List ActionView) : sort order (views.map change) = (sort order views).map change := by
  have hbefore : ∀ first second : ActionView,
      (!decide ((change second).Before (change first))) = !decide (second.Before first) := by
    intro first second
    simp only [hkeeps.before]
  cases order with
  | ascending => exact Store.sort_map hbefore views
  | descending =>
      unfold ActionView.sort
      dsimp only
      rw [Store.sort_map hbefore, List.map_reverse]

/-- Views are in the same order on both sides. -/
theorem keeps_order_view (translation : Translation) : KeepsOrder translation.view where
  before first second := by
    unfold Before Translation.view
    simp only [OrderEmbedding.lt_iff_lt]
  episode first second := by simp [Translation.view]

end ActionView

namespace Store

variable {translation : Translation} {user : Entry User} {source copy : Store} {name : String}

/-! ## Views -/

/-- A podcast of the copy is under its id in the source. -/
theorem Mirrors.get_podcast (hmirrors : Mirrors translation user source copy) {podcastId : Int}
    (hpodcast : copy.HasPodcast user.id podcastId) :
    source.podcasts.get? (translation.podcasts podcastId) =
      (copy.podcasts.get? podcastId).map translation.podcast := by
  refine hmirrors.podcasts.get_eq fun podcast hmem hid => beq_iff_eq.mpr ?_
  have howner : source.HasPodcast podcast.row.userId (translation.podcasts podcastId) :=
    ⟨podcast, hmem, hid, rfl⟩
  exact howner.owner_unique (hmirrors.has_podcast hpodcast)

/-- An episode of the copy is under its id in the source. -/
theorem Mirrors.get_episode (hmirrors : Mirrors translation user source copy)
    {podcastId episodeId : Int} (hpodcast : copy.HasPodcast user.id podcastId)
    (hepisode : copy.HasEpisode podcastId episodeId) :
    source.episodes.get? (translation.episodes episodeId) =
      (copy.episodes.get? episodeId).map translation.episode := by
  refine hmirrors.episodes.get_eq fun episode hmem hid => ?_
  have hof : source.HasEpisode episode.row.podcastId (translation.episodes episodeId) :=
    ⟨episode, hmem, hid, rfl⟩
  rw [hof.podcast_unique (hmirrors.has_episode hepisode)]
  exact hmirrors.owns_podcast hpodcast.has

/-- A device of the copy is under its id in the source. -/
theorem Mirrors.get_device (hmirrors : Mirrors translation user source copy) {deviceId : Int}
    (hdevice : copy.HasDevice user.id deviceId) :
    source.devices.get? (translation.devices deviceId) =
      (copy.devices.get? deviceId).map translation.device := by
  refine hmirrors.devices.get_eq fun device hmem hid => beq_iff_eq.mpr ?_
  exact hmirrors.mine_of_device hdevice ⟨device, hmem, hid, rfl⟩

/-- The rows of the copy are in their places with its user. -/
theorem Mirrors.places_of_mem (hmirrors : Mirrors translation user source copy)
    {action : Entry EpisodeAction} (hmem : action ∈ copy.actions.entries) :
    copy.Places user.id action.row := by
  obtain ⟨userId, hhas, hplaces⟩ := hmirrors.copy_consistent.actions_placed action hmem
  rw [← hmirrors.eq_of_has hhas]
  exact hplaces

/-- A row of the log is viewed in the same way on both sides. -/
theorem Mirrors.view_eq (hmirrors : Mirrors translation user source copy)
    {action : Entry EpisodeAction} (hmem : action ∈ copy.actions.entries) :
    source.view? translation.userId (translation.action action) =
      (copy.view? user.id action).map translation.view := by
  have hplaces := hmirrors.places_of_mem hmem
  have hdevice : ((translation.action action).row.deviceId.bind source.devices.get?).map
        (·.row.name) =
      (action.row.deviceId.bind copy.devices.get?).map (·.row.name) := by
    show ((action.row.deviceId.map translation.devices).bind _).map _ = _
    cases hid : action.row.deviceId with
    | none => rfl
    | some deviceId =>
        show (source.devices.get? (translation.devices deviceId)).map _ = _
        rw [hmirrors.get_device (hplaces.device deviceId hid), Option.map_map]
        rfl
  unfold view?
  show (source.podcasts.get? (translation.podcasts action.row.podcastId)).bind _ = _
  rw [hmirrors.get_podcast hplaces.podcast]
  cases hpodcast : copy.podcasts.get? action.row.podcastId with
  | none => rfl
  | some podcast =>
      show (source.episodes.get? (translation.episodes action.row.episodeId)).bind _ =
        ((copy.episodes.get? action.row.episodeId).bind _).map _
      rw [hmirrors.get_episode hplaces.podcast hplaces.episode]
      cases copy.episodes.get? action.row.episodeId with
      | none => rfl
      | some episode =>
          have howner := hmirrors.podcast_owner (Table.get?_eq_some_iff.mp hpodcast).1
          show (if translation.userId = translation.userId then _ else none) =
            (if podcast.row.userId = user.id then _ else none : Option ActionView).map _
          rw [if_pos rfl, if_pos howner]
          rw [hdevice]
          rfl

/-- A row of the log that is not one of the user is not viewed. -/
theorem view_eq_none {store : Store} {userId : Int} {action : Entry EpisodeAction}
    (hother : store.ownsPodcast userId action.row.podcastId = false) :
    store.view? userId action = none := by
  cases hview : store.view? userId action with
  | none => rfl
  | some view =>
      unfold view? at hview
      simp only [bind, Option.bind_eq_some_iff] at hview
      obtain ⟨podcast, hpodcast, episode, _, hview⟩ := hview
      split at hview
      · next howner =>
          obtain ⟨hmem, hid⟩ := Table.get?_eq_some_iff.mp hpodcast
          rw [owns_podcast_iff.mpr ⟨podcast, hmem, hid, howner⟩] at hother
          cases hother
      · cases hview

/-- What gives nothing may be left out. -/
theorem filter_map_of_filter {First Second : Type} {items : List First} {kept : First → Bool}
    {view : First → Option Second} (hnone : ∀ item ∈ items, kept item = false → view item = none) :
    items.filterMap view = (items.filter kept).filterMap view := by
  rw [List.filterMap_filter]
  refine List.filterMap_congr fun item hmem => ?_
  split
  · rfl
  · next hleft => exact hnone item hmem (Bool.not_eq_true _ ▸ hleft)

/-- The views of the user that satisfy a condition are the same on both sides. -/
theorem Mirrors.views_eq (hmirrors : Mirrors translation user source copy)
    {condition condition' : EpisodeAction → Bool}
    (hsame : ∀ row, condition (translation.actionRow row) = condition' row) :
    source.views translation.userId condition =
      (copy.views user.id condition').map translation.view := by
  have hfilter :
      source.actions.entries.filter (fun action =>
          source.ownsPodcast translation.userId action.row.podcastId && condition action.row) =
        (copy.actions.entries.filter fun action => condition' action.row).map
          translation.action := by
    refine hmirrors.actions.filter_eq (fun action _ hfound => ?_) fun action hmem => ?_
    · exact (Bool.and_eq_true_iff.mp hfound).1
    · rw [(hmirrors.actions.mem hmem).2, Bool.true_and]
      exact hsame action.row
  unfold views
  rw [filter_map_of_filter (fun _ _ => view_eq_none), List.filter_filter, hfilter,
    List.filterMap_map, List.map_filterMap]
  refine List.filterMap_congr fun action hmem => ?_
  exact hmirrors.view_eq (List.mem_of_mem_filter hmem)

/-! ## Listings -/

/-- The device that a query leaves out is found on both sides. -/
theorem Mirrors.query_device (hmirrors : Mirrors translation user source copy)
    (device : Option String) :
    Agree (fun first second => first = second.map translation.device)
      (source.queryDevice translation.userId device) (copy.queryDevice user.id device) := by
  cases device with
  | none => exact rfl
  | some device =>
      refine (hmirrors.load_device device).bind fun _ _ _ _ hdevice => ?_
      exact congrArg some hdevice

/-- The views that a query selects are the same on both sides. -/
theorem Mirrors.selected_views (hmirrors : Mirrors translation user source copy)
    (device : Option (Entry Device)) (podcast : Option (Entry Podcast)) (since : Option Instant) :
    source.views translation.userId (fun action =>
        (device.map translation.device).all (fun device => action.deviceId != some device.id) &&
          (podcast.map translation.podcast).all (fun podcast => action.podcastId == podcast.id) &&
          isAfter since action.occurredAt) =
      (copy.views user.id fun action =>
        device.all (fun device => action.deviceId != some device.id) &&
          podcast.all (fun podcast => action.podcastId == podcast.id) &&
          isAfter since action.occurredAt).map translation.view := by
  refine hmirrors.views_eq fun row => ?_
  have hdevice : (device.map translation.device).all (fun device =>
        (translation.actionRow row).deviceId != some device.id) =
      device.all fun device => row.deviceId != some device.id := by
    cases device with
    | none => rfl
    | some device => exact congrArg (!·) (beq_reference_iff row.deviceId device.id)
  have hpodcast : (podcast.map translation.podcast).all (fun podcast =>
        (translation.actionRow row).podcastId == podcast.id) =
      podcast.all fun podcast => row.podcastId == podcast.id := by
    cases podcast with
    | none => rfl
    | some podcast => exact beq_ids_iff row.podcastId podcast.id
  rw [hdevice, hpodcast]
  rfl

/-- The views that a query found, aggregated, sorted and cut as it asks for. -/
def arrange (query : ActionQuery) (found : List ActionView) : List ActionView :=
  let sorted :=
    ActionView.sort query.order (if query.aggregated then ActionView.latest found else found)
  match query.limit with
  | none => sorted
  | some limit => sorted.take limit.toNat

/-- Changed views are arranged as the views are. -/
theorem arrange_map {change : ActionView → ActionView} (hkeeps : ActionView.KeepsOrder change)
    (query : ActionQuery) (found : List ActionView) :
    arrange query (found.map change) = (arrange query found).map change := by
  have hkept : (if query.aggregated then ActionView.latest (found.map change)
        else found.map change) =
      (if query.aggregated then ActionView.latest found else found).map change := by
    split
    · exact hkeeps.latest found
    · rfl
  unfold arrange
  rw [hkept, hkeeps.sort]
  cases query.limit with
  | none => rfl
  | some limit => exact List.map_take.symm

/-- The actions that a query asks for are the same on both sides. -/
theorem Loads.list_actions (hloads : Loads translation user name source copy)
    (query : ActionQuery) :
    Agree
      (Kept translation user source copy fun first second => first = second.map translation.view)
      (source.listActions name query) (copy.listActions name query) := by
  unfold listActions
  refine hloads.bind_kept fun hmirrors => ?_
  refine (hmirrors.query_device query.device).bind fun _ device _ _ hdevice => ?_
  subst hdevice
  -- Whichever podcast is asked for, the selected views are arranged alike.
  have harranged : ∀ podcast, arrange query _ = (arrange query _).map translation.view :=
    fun podcast => (congrArg (arrange query)
      (hmirrors.selected_views device podcast query.since)).trans
        (arrange_map (ActionView.keeps_order_view translation) query _)
  cases query.podcast with
  | none =>
      show Agree _ (requireBound query.since _ >>= _) (requireBound query.since _ >>= _)
      exact (Agree.refl _).bind fun _ _ _ _ _ => harranged none
  | some raw =>
      have hselect : Agree
          (fun first second => first = second.map (Option.map translation.podcast))
          ((source.selectRawPodcast translation.userId raw).map some)
          ((copy.selectRawPodcast user.id raw).map some) :=
        (hmirrors.select_raw_podcast raw).map fun _ _ hselect => congrArg some hselect
      refine hselect.bind fun _ podcast _ _ hpodcast => ?_
      subst hpodcast
      -- An address that stands for no podcast of the user ends the query; the other cases select.
      match podcast with
      | some none => exact rfl
      | none => exact (Agree.refl _).bind fun _ _ _ _ _ => harranged none
      | some (some podcast) =>
          exact (Agree.refl _).bind fun _ _ _ _ _ => harranged (some podcast)

/-- The last action of a podcast is the same on both sides. -/
theorem Loads.last_action (hloads : Loads translation user name source copy) (podcast : String)
    (excludeDeleted : Bool) :
    Agree (Kept translation user source copy fun first second => first = translation.view second)
      (source.lastAction name podcast excludeDeleted)
      (copy.lastAction name podcast excludeDeleted) := by
  unfold lastAction
  refine hloads.bind_kept fun hmirrors => ?_
  refine (hmirrors.select_raw_podcast podcast).bind fun _ second _ _ hselect => ?_
  subst hselect
  cases second with
  | none => exact rfl
  | some entry =>
      have hviews : source.views translation.userId (fun action =>
            action.podcastId == (translation.podcast entry).id &&
              !(excludeDeleted && action.kind == .delete)) =
          (copy.views user.id fun action =>
            action.podcastId == entry.id &&
              !(excludeDeleted && action.kind == .delete)).map translation.view :=
        hmirrors.views_eq fun row => congrArg (· && _) (beq_ids_iff row.podcastId entry.id)
      dsimp only
      rw [Translation.id_user]
      simp only [Option.map_some]
      rw [hviews, (ActionView.keeps_order_view translation).sort, List.head?_map]
      cases (ActionView.sort .descending _).head? <;> exact rfl

/-- The translation of ids sees whether an id is in a list. -/
theorem contains_map {ids : Int ↪o Int} (items : List Int) (id : Int) :
    (items.map ids).contains (ids id) = items.contains id := by
  rw [Bool.eq_iff_iff, List.contains_iff_mem, List.contains_iff_mem,
    List.mem_map_of_injective ids.injective]

/-- The favorites are the same on both sides. -/
theorem Loads.favorites (hloads : Loads translation user name source copy) :
    Agree
      (Kept translation user source copy fun first second => first = second.map translation.view)
      (source.favorites name) (copy.favorites name) := by
  unfold Store.favorites
  refine hloads.bind_kept fun hmirrors => ?_
  have hmarks :
      source.settings.entries.filter (fun setting =>
          isFavoriteMark translation.userId setting.row) =
        (copy.settings.entries.filter fun setting => isFavoriteMark user.id setting.row).map
          translation.setting := by
    refine hmirrors.settings.filter_eq (fun setting _ hfound => ?_) fun setting hmem => ?_
    · simp only [isFavoriteMark, Bool.and_eq_true] at hfound
      exact hfound.1.1.1
    · unfold isFavoriteMark
      rw [hmirrors.setting_owner hmem]
      simp [Translation.settingRow]
  let marks := copy.settings.entries.filter fun setting => isFavoriteMark user.id setting.row
  have hepisodes : (marks.map translation.setting).filterMap (·.row.target.episode?) =
      (marks.filterMap (·.row.target.episode?)).map translation.episodes := by
    rw [List.filterMap_map, List.map_filterMap]
    exact List.filterMap_congr fun setting _ => translation.episode?_target setting.row.target
  have hviews :
      source.views translation.userId (fun action =>
          ((marks.map translation.setting).filterMap (·.row.target.episode?)).contains
            action.episodeId) =
        (copy.views user.id fun action =>
          (marks.filterMap (·.row.target.episode?)).contains action.episodeId).map
          translation.view := by
    rw [hepisodes]
    exact hmirrors.views_eq fun row => contains_map _ row.episodeId
  dsimp only
  rw [Translation.id_user, hmarks, hviews, (ActionView.keeps_order_view translation).latest,
    (ActionView.keeps_order_view translation).sort]
  exact rfl

end Store

end PodcastLedger
