import PodcastLedger.Proofs.Isolation.Frame
import PodcastLedger.Proofs.Isolation.Log
import PodcastLedger.Proofs.Isolation.Views

/-!
# Answers on both sides

What answers show is the same in the source and in the copy. `Answer.shown` leaves the ids of rows
out of an answer; in the actions of an upload, what refers to the same device, podcast or episode is
still told from what refers to another one. A request other than the creation or the end of an
account is answered on both sides in the same way: `Store.Loads.answer`.
-/

namespace PodcastLedger

/-- A user without its id. -/
def User.shown (user : Entry User) : Entry User :=
  ⟨0, user.row⟩

/-- A device without its id and that of its user. -/
def Device.shown (device : Entry Device) : Entry Device :=
  ⟨0, { device.row with userId := 0 }⟩

/-- A podcast without its id and that of its user. -/
def Podcast.shown (podcast : Entry Podcast) : Entry Podcast :=
  ⟨0, { podcast.row with userId := 0 }⟩

/-- An episode without its id and that of its podcast. -/
def Episode.shown (episode : Entry Episode) : Entry Episode :=
  ⟨0, { episode.row with podcastId := 0 }⟩

/-- A view without its id and that of its episode. -/
def ActionView.shown (view : ActionView) : ActionView :=
  { view with id := 0, episodeId := 0 }

/-- Where an id is mentioned first. -/
def firstMention (ids : List Int) (id : Int) : Int :=
  ids.idxOf id

/-- Actions without their ids. In place of the ids that they refer to stands where these are
mentioned first. -/
def EpisodeAction.shown (actions : List (Entry EpisodeAction)) : List (Entry EpisodeAction) :=
  actions.map fun action =>
    ⟨0, { action.row with
      deviceId :=
        action.row.deviceId.map (firstMention (actions.filterMap fun action => action.row.deviceId))
      podcastId := firstMention (actions.map fun action => action.row.podcastId) action.row.podcastId
      episodeId :=
        firstMention (actions.map fun action => action.row.episodeId) action.row.episodeId }⟩

/-- What a key names without ids. -/
def ResolvedKey.shown (key : ResolvedKey) : ResolvedKey :=
  match key with
  | .account => .account
  | .device target => .device (Device.shown target)
  | .episode feed target => .episode (Podcast.shown feed) (Episode.shown target)
  | .podcast target => .podcast (Podcast.shown target)

/-- An answer without the ids of rows. -/
def Answer.shown (answer : Answer) : Answer :=
  match answer with
  | .user found => .user (User.shown found)
  | .userDestroyed counts => .userDestroyed counts
  | .registration result => .registration ⟨Device.shown result.device, result.created⟩
  | .device found => .device (Device.shown found)
  | .deviceFound found => .deviceFound (found.map Device.shown)
  | .devices summaries =>
    .devices (summaries.map fun summary => ⟨Device.shown summary.device, summary.subscriptions⟩)
  | .deviceDestroyed counts => .deviceDestroyed counts
  | .subscriptionUpdate update =>
    .subscriptionUpdate
      { update with
        subscribed := update.subscribed.map Podcast.shown
        unsubscribed := update.unsubscribed.map Podcast.shown }
  | .subscriptionChanges changes =>
    .subscriptionChanges ⟨changes.added.map Podcast.shown, changes.removed.map Podcast.shown⟩
  | .urls found => .urls found
  | .podcastFound found => .podcastFound (found.map Podcast.shown)
  | .actionsAdded added => .actionsAdded { added with actions := EpisodeAction.shown added.actions }
  | .views found => .views (found.map ActionView.shown)
  | .view found => .view found.shown
  | .key resolved => .key resolved.shown
  | .settings found => .settings found

/-- The request creates an account or ends one. -/
def Request.OfAccount : Request → Prop
  | .createUser _ _ => True
  | .destroyUser => True
  | _ => False

/-! ## Translated answers -/

variable (translation : Translation)

/-- Where an id is mentioned first does not depend on what the ids are. -/
theorem first_mention_map (ids : Int ↪o Int) (items : List Int) (id : Int) :
    firstMention (items.map ids) (ids id) = firstMention items id := by
  unfold firstMention
  induction items with
  | nil => rfl
  | cons item items ih =>
      rw [List.map_cons, List.idxOf_cons, List.idxOf_cons, Store.beq_ids_iff]
      cases item == id with
      | true => rfl
      | false => simpa using ih

/-- Translated actions show the same. -/
theorem shown_actions (actions : List (Entry EpisodeAction)) :
    EpisodeAction.shown (actions.map translation.action) = EpisodeAction.shown actions := by
  have hdevices : (actions.map translation.action).filterMap (·.row.deviceId) =
      (actions.filterMap (·.row.deviceId)).map translation.devices := by
    rw [List.filterMap_map, List.map_filterMap]
    rfl
  have hpodcasts : (actions.map translation.action).map (·.row.podcastId) =
      (actions.map (·.row.podcastId)).map translation.podcasts := by
    rw [List.map_map, List.map_map]
    rfl
  have hepisodes : (actions.map translation.action).map (·.row.episodeId) =
      (actions.map (·.row.episodeId)).map translation.episodes := by
    rw [List.map_map, List.map_map]
    rfl
  unfold EpisodeAction.shown
  rw [hdevices, hpodcasts, hepisodes, List.map_map]
  refine List.map_congr_left fun action _ => ?_
  simp only [Function.comp_apply, Translation.action, Translation.actionRow, Entry.row_rename,
    first_mention_map, Option.map_map]
  have hcomp : ∀ items : List Int,
      firstMention (items.map translation.devices) ∘ translation.devices = firstMention items :=
    fun items => funext fun id => first_mention_map translation.devices items id
  rw [hcomp]

/-- A translated key shows the same. -/
theorem shown_key (key : ResolvedKey) : (translation.key key).shown = key.shown := by
  cases key <;> rfl

/-- A device of the source shows the same as in the copy. -/
@[simp] theorem shown_comp_device : Device.shown ∘ translation.device = Device.shown := rfl

/-- A podcast of the source shows the same as in the copy. -/
@[simp] theorem shown_comp_podcast : Podcast.shown ∘ translation.podcast = Podcast.shown := rfl

/-- A view of the source shows the same as in the copy. -/
@[simp] theorem shown_comp_view : ActionView.shown ∘ translation.view = ActionView.shown := rfl

/-- A translated result of an upload of subscriptions shows the same. -/
theorem shown_update (update : SubscriptionUpdate) :
    (Answer.subscriptionUpdate (translation.update update)).shown =
      (Answer.subscriptionUpdate update).shown := by
  simp [Answer.shown, Translation.update]

/-- Translated views show the same. -/
theorem shown_views (views : List ActionView) :
    (Answer.views (views.map translation.view)).shown = (Answer.views views).shown := by
  simp [Answer.shown]

namespace Store

variable {translation : Translation} {user : Entry User} {source copy : Store} {name : String}

/-- The answers show the same. -/
def SameShown (first second : Answer) : Prop :=
  first.shown = second.shown

/-- An operation that changes the stores is answered in the same way. -/
theorem agree_write {First Second : Type} {related : First → Second → Prop}
    {first : Except Failure (Store × First)} {second : Except Failure (Store × Second)}
    (hagree : Agree (Both translation user related) first second)
    {label : First → Answer} {label' : Second → Answer}
    (hshown : ∀ a b, related a b → SameShown (label a) (label' b)) :
    Agree (Both translation user SameShown) (write label first) (write label' second) :=
  Agree.map hagree fun a b hboth => ⟨hboth.1, hshown a.2 b.2 hboth.2⟩

/-- An operation that only reads is answered in the same way. -/
theorem agree_read {First Second : Type} {related : First → Second → Prop}
    {first : Except Failure First} {second : Except Failure Second}
    (hagree : Agree (Kept translation user source copy related) first second)
    {label : First → Answer} {label' : Second → Answer}
    (hshown : ∀ a b, related a b → SameShown (label a) (label' b)) :
    Agree (Both translation user SameShown) (source.read label first) (copy.read label' second) :=
  Agree.map hagree fun a b hkept => ⟨hkept.1, hshown a b hkept.2⟩

/-- A request that neither creates an account nor ends one is answered on both sides in the same
way. -/
theorem Loads.answer (hloads : Loads translation user name source copy) {request : Request}
    (hrequest : ¬ request.OfAccount) :
    Agree (Both translation user SameShown) (source.answer name request)
      (copy.answer name request) := by
  cases request with
  | createUser password workFactor => exact absurd trivial hrequest
  | destroyUser => exact absurd trivial hrequest
  | loadUser =>
      have hload : Agree (Kept translation user source copy fun first second =>
          first = translation.user second) (source.loadUser name) (copy.loadUser name) :=
        hloads.mono fun _ _ ⟨hfirst, hsecond, hmirrors⟩ => ⟨hmirrors, by rw [hfirst, hsecond]⟩
      refine agree_read hload fun _ second hsame => ?_
      subst hsame
      rfl
  | registerDevice device =>
      refine agree_write (hloads.bind fun hmirrors => hmirrors.register_device device)
        fun first second hsame => ?_
      obtain ⟨hdevice, hcreated⟩ := hsame
      simp only [SameShown, Answer.shown, hdevice, hcreated]
      rfl
  | updateDevice device caption kind =>
      refine agree_write (hloads.update_device device caption kind) fun _ second hsame => ?_
      subst hsame
      rfl
  | findDevice device =>
      refine agree_read (hloads.bind_kept fun hmirrors => hmirrors.select_device device)
        fun _ second hsame => ?_
      subst hsame
      simp [SameShown, Answer.shown]
  | listDevices =>
      refine agree_read hloads.list_devices fun _ second hsame => ?_
      subst hsame
      simp only [SameShown, Answer.shown, List.map_map]
      rfl
  | destroyDevice device =>
      exact agree_write (hloads.destroy_device device) fun _ _ hsame => by rw [hsame]; rfl
  | replaceSubscriptions device timestamp urls =>
      refine agree_write (hloads.replace_subscriptions device timestamp urls) fun _ second hsame => ?_
      subst hsame
      exact shown_update translation second
  | changeSubscriptions device timestamp add remove =>
      refine agree_write (hloads.change_subscriptions device timestamp add remove)
        fun _ second hsame => ?_
      subst hsame
      exact shown_update translation second
  | subscriptionChanges device since =>
      refine agree_read (hloads.subscription_changes device since) fun _ second hsame => ?_
      subst hsame
      simp [SameShown, Answer.shown, Translation.changes]
  | subscriptions since =>
      exact agree_read (hloads.subscriptions since) fun _ _ hsame => by rw [hsame]; rfl
  | findPodcast url =>
      refine agree_read (hloads.bind_kept fun hmirrors => hmirrors.select_podcast url)
        fun _ second hsame => ?_
      subst hsame
      simp [SameShown, Answer.shown]
  | addActions uploads =>
      refine agree_write (hloads.add_actions uploads) fun _ second hsame => ?_
      subst hsame
      simp only [SameShown, Answer.shown, Translation.added, shown_actions]
  | listActions query =>
      refine agree_read (hloads.list_actions query) fun _ second hsame => ?_
      subst hsame
      exact shown_views translation second
  | lastAction podcast excludeDeleted =>
      refine agree_read (hloads.last_action podcast excludeDeleted) fun _ second hsame => ?_
      subst hsame
      rfl
  | favorites =>
      refine agree_read hloads.favorites fun _ second hsame => ?_
      subst hsame
      exact shown_views translation second
  | resolveKey texts =>
      refine agree_read (Agree.after fun key => hloads.bind_kept fun hmirrors =>
        hmirrors.resolve_key key) fun _ second hsame => ?_
      subst hsame
      exact congrArg Answer.key (shown_key translation second)
  | getSettings texts =>
      exact agree_read (Agree.after fun key => hloads.get_settings key)
        fun _ _ hsame => by rw [hsame]; rfl
  | saveSettings texts assignments removals =>
      exact agree_write (Agree.after fun key => hloads.save_settings key assignments removals)
        fun _ _ hsame => by rw [hsame]; rfl

end Store

end PodcastLedger
