import PodcastLedger.Proofs.Isolation.Subscriptions

/-!
# Uploads of actions on both sides

An upload of actions agrees in the source and in the copy: `Store.Loads.add_actions`. The rows that
are appended on both sides refer to the same devices, podcasts and episodes.
-/

namespace PodcastLedger

/-- The result of an upload of actions in the source. -/
def Translation.added (translation : Translation) (added : ActionsAdded) : ActionsAdded :=
  { added with actions := added.actions.map translation.action }

namespace Store

variable {translation : Translation} {user : Entry User} {source copy : Store} {name : String}

/-- An episode is found or added on both sides. -/
theorem Mirrors.insert_episode_agree (hmirrors : Mirrors translation user source copy)
    {podcastId : Int} (hhas : copy.podcasts.Has podcastId) (url : String) (guid : Option String) :
    Agree (Both translation user fun first second => first = translation.episode second)
      (source.insertEpisode (translation.podcasts podcastId) url guid)
      (copy.insertEpisode podcastId url guid) := by
  unfold insertEpisode
  have howner := (owns_podcast_iff.mp (hmirrors.owns_podcast hhas)).has
  have hrequire := agree_require
    (and_congr_right fun _ => and_congr_right fun _ => iff_of_true howner hhas :
      (IsBindable url ∧ (∀ text ∈ guid, IsBindable text) ∧
          source.podcasts.Has (translation.podcasts podcastId)) ↔
        IsBindable url ∧ (∀ text ∈ guid, IsBindable text) ∧ copy.podcasts.Has podcastId)
    .insertEpisode
  refine hrequire.bind fun _ _ _ _ _ => ?_
  rw [hmirrors.find_episode hhas]
  cases hfind : copy.findEpisode? podcastId url with
  | some episode => exact ⟨hmirrors.identify_episode episode.id guid, rfl⟩
  | none =>
      refine ⟨hmirrors.insert_episode hhas hfind guid, ?_⟩
      simp [Translation.episode, Translation.episodeRow, Entry.rename, hmirrors.episodes.next]

/-- The device of an action is in its place on both sides. -/
theorem Mirrors.place_device (hmirrors : Mirrors translation user source copy)
    (device : Option String) :
    Agree (Both translation user fun first second => first = second.map translation.devices)
      (source.placeDevice translation.userId device) (copy.placeDevice user.id device) := by
  unfold placeDevice
  cases device with
  | none => exact ⟨hmirrors, rfl⟩
  | some device =>
      refine bind_both (hmirrors.register_device device) fun _ _ hafter hregistered => ?_
      exact ⟨hafter, congrArg (fun device : Entry Device => some device.id) hregistered.1⟩

/-- An action is placed on both sides. -/
theorem Mirrors.place_action (hmirrors : Mirrors translation user source copy)
    (action : ValidAction) :
    Agree (Both translation user fun first second => first = translation.actionRow second)
      (source.placeAction translation.userId action) (copy.placeAction user.id action) := by
  unfold placeAction
  refine bind_both (hmirrors.place_device action.device) fun _ _ hregistered hdevice => ?_
  refine bind_both (hregistered.insert_podcast_agree action.podcast)
    fun _ hcopy hinserted hpodcast => ?_
  obtain ⟨_, hhas⟩ : Growth user.id none _ _ ∧ _ := insert_podcast_ok hcopy
  subst hdevice hpodcast
  refine bind_both (hinserted.insert_episode_agree hhas.has action.episode action.guid)
    fun _ _ hafter hepisode => ?_
  subst hepisode
  exact ⟨hafter, rfl⟩

/-- Actions are placed on both sides, one after the other. -/
theorem Mirrors.place_actions (hmirrors : Mirrors translation user source copy)
    (actions : List ValidAction) :
    Agree (Both translation user fun first second => first = second.map translation.actionRow)
      (source.placeActions translation.userId actions) (copy.placeActions user.id actions) := by
  induction actions generalizing source copy with
  | nil => exact ⟨hmirrors, rfl⟩
  | cons action actions ih =>
      unfold placeActions
      refine bind_both (hmirrors.place_action action) fun _ _ hplaced hrow => ?_
      refine bind_both (ih hplaced) fun _ _ hafter hrows => ?_
      subst hrow hrows
      exact ⟨hafter, rfl⟩

/-- A row that is in its place is accepted if its time can be stored and its measures are those of
its kind. -/
theorem Places.accepts_iff {store : Store} {userId : Int} {row : EpisodeAction}
    (hplaces : store.Places userId row) :
    store.AcceptsAction row ↔ row.occurredAt.IsStorable ∧
      (row.kind = .play ∨ (row.started = none ∧ row.position = none ∧ row.total = none)) := by
  have hdevices : ∀ deviceId ∈ row.deviceId, store.devices.Has deviceId :=
    fun deviceId hdevice => (hplaces.device deviceId hdevice).has
  constructor
  · rintro ⟨_, _, _, haccepted⟩
    exact haccepted
  · intro haccepted
    exact ⟨hplaces.podcast.has, hplaces.episode.has, hdevices, haccepted⟩

/-- Rows are appended on both sides. -/
theorem Mirrors.append_actions (hmirrors : Mirrors translation user source copy)
    {rows : List EpisodeAction}
    (hplaced : ∀ row ∈ rows, copy.Places user.id row ∧ row.kind.Allows row.measures) :
    Both translation user (fun first second => first = second.map translation.action)
      (source.appendActions (rows.map translation.actionRow)) (copy.appendActions rows) := by
  induction rows generalizing source copy with
  | nil => exact ⟨hmirrors, rfl⟩
  | cons row rows ih =>
      obtain ⟨⟨hplaces, hmeasures⟩, hrest⟩ := List.forall_mem_cons.mp hplaced
      let kept := { row with occurredAt := row.occurredAt.stored }
      have hkept : copy.Places user.id kept := ⟨hplaces.podcast, hplaces.episode, hplaces.device⟩
      have hafter := hmirrors.insert_action hkept hmeasures
      have hothers : ∀ other ∈ rows,
          Places { copy with actions := copy.actions.insert kept } user.id other ∧
            other.kind.Allows other.measures := by
        intro other hmem
        exact ⟨(hrest other hmem).1.mono ⟨id, id, id⟩, (hrest other hmem).2⟩
      obtain ⟨hlast, hentries⟩ := ih hafter hothers
      refine ⟨hlast, ?_⟩
      have hid : source.actions.next = translation.actions copy.actions.next :=
        hmirrors.actions.next
      exact congr (congrArg (fun id entries => Entry.mk id (translation.actionRow kept) :: entries)
        hid) hentries

/-- A batch of rows is appended on both sides or on none. -/
theorem Mirrors.insert_actions (hmirrors : Mirrors translation user source copy)
    {rows : List EpisodeAction}
    (hplaced : ∀ row ∈ rows, copy.Places user.id row ∧ row.kind.Allows row.measures) :
    Agree (Both translation user fun first second => first = second.map translation.action)
      (source.insertActions (rows.map translation.actionRow)) (copy.insertActions rows) := by
  unfold insertActions
  have haccepts : (∀ row ∈ rows.map translation.actionRow, source.AcceptsAction row) ↔
      ∀ row ∈ rows, copy.AcceptsAction row := by
    rw [List.forall_mem_map]
    refine forall₂_congr fun row hmem => ?_
    have hplaces := (hplaced row hmem).1
    rw [(hmirrors.places hplaces).accepts_iff, hplaces.accepts_iff]
    exact Iff.rfl
  refine (agree_require haccepts .insertActions).bind fun _ _ _ _ _ => ?_
  exact hmirrors.append_actions hplaced

/-- Actions are uploaded on both sides. -/
theorem Loads.add_actions (hloads : Loads translation user name source copy)
    (uploads : List ActionUpload) :
    Agree (Both translation user fun first second => first = translation.added second)
      (source.addActions name uploads) (copy.addActions name uploads) := by
  unfold addActions
  refine (Agree.refl _).bind fun actions _ hvalid _ hsame => ?_
  subst hsame
  have hallowed : ∀ action ∈ actions,
      action.kind.Allows [action.started, action.position, action.total] := by
    intro action hmem
    obtain ⟨upload, _, hupload⟩ := validate_all_ok hvalid action hmem
    exact validate_ok hupload
  refine hloads.bind fun hmirrors => ?_
  refine bind_both (hmirrors.place_actions actions) fun _ hcopy hafter hrows => ?_
  obtain ⟨_, hplaced⟩ : Growth user.id none _ _ ∧ _ := place_actions_ok hallowed hcopy
  subst hrows
  refine bind_both (hafter.insert_actions hplaced) fun _ _ hlast hentries => ?_
  subst hentries
  exact ⟨hlast, rfl⟩

end Store

end PodcastLedger
