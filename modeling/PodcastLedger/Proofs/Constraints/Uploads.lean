import PodcastLedger.Proofs.Constraints.Conformity

/-!
# Uploads under constraints

Uploads of subscriptions and of batches of actions by guarded statements. What a statement leads to
meets the constraints for the next one, and what was read before is still there, so an upload has the
outcome that it has by plain statements, failures included
(`Guarded.replace_subscriptions_performs`, `Guarded.change_subscriptions_performs`,
`Guarded.add_actions_performs`).
-/

namespace PodcastLedger.Guarded

open RowStatements (guarded plain recallText recall_text_of_some recall_text_of_none)

variable {store : Store} {userId : Int} {time : Instant}

/-! ## Subscriptions -/

/-- The turn of a podcast that is there is performed. -/
theorem turn_row_performs (hconstrained : store.Constrained) {podcast : Entry Podcast}
    (hhas : store.podcasts.Has podcast.id) (subscribed : Bool) (time : Instant) :
    Performs store (guarded.turnRow podcast subscribed time)
      (plain.turnRow podcast subscribed time) := by
  unfold RowStatements.turnRow
  split
  · exact .pure hconstrained []
  · exact (update_subscription_performs hconstrained hhas subscribed time).bind
      fun _ written _ hlast => .pure hlast.constrained [written]

/-- The ends of subscriptions to podcasts that are there are performed. -/
theorem end_rows_performs (hconstrained : store.Constrained) (keeps : String → Bool)
    {rows : List (Entry Podcast)} (hrows : ∀ podcast ∈ rows, store.podcasts.Has podcast.id) :
    Performs store (guarded.endRows keeps time rows) (plain.endRows keeps time rows) := by
  induction rows generalizing store with
  | nil => exact .pure hconstrained []
  | cons podcast rest ih =>
      obtain ⟨hhas, hrest⟩ := List.forall_mem_cons.mp hrows
      unfold RowStatements.endRows
      split
      · exact ih hconstrained hrest
      · refine (turn_row_performs hconstrained hhas false time).bind fun middle first _ hmiddle => ?_
        refine (ih hmiddle.constrained fun other hother => hmiddle.podcasts (hrest other hother)).bind
          fun last others _ hlast => ?_
        exact .pure hlast.constrained _

/-- The search for the podcast of an address is performed. -/
theorem take_podcast_performs (hconstrained : store.Constrained) (userId : Int)
    (known : List (Entry Podcast)) (url : String) :
    Performs store (guarded.takePodcast userId known url) (plain.takePodcast userId known url) := by
  unfold RowStatements.takePodcast
  split
  · exact .pure hconstrained _
  · exact insert_podcast_performs hconstrained userId url

/-- The podcast of an address is there when it was searched for. -/
theorem has_of_take_podcast {known : List (Entry Podcast)}
    (hknown : ∀ podcast ∈ known, store.podcasts.Has podcast.id) {url : String} {next : Store}
    {podcast : Entry Podcast}
    (htake : (plain.takePodcast userId known url).whole store = .ok (next, podcast)) :
    next.podcasts.Has podcast.id := by
  unfold RowStatements.takePodcast at htake
  split at htake
  · next hfind =>
      cases htake
      exact hknown podcast (List.mem_of_find?_eq_some hfind)
  · obtain ⟨_, _, hread⟩ := Store.insert_podcast_iff.mp htake
    exact Table.has_of_mem (Store.mem_of_find_podcast hread).1

/-- Subscriptions to addresses are performed. -/
theorem subscribe_each_performs (hconstrained : store.Constrained) {known : List (Entry Podcast)}
    (hknown : ∀ podcast ∈ known, store.podcasts.Has podcast.id) (urls : List String) :
    Performs store (guarded.subscribeEach userId known time urls)
      (plain.subscribeEach userId known time urls) := by
  induction urls generalizing store known with
  | nil => exact .pure hconstrained []
  | cons url rest ih =>
      refine (take_podcast_performs hconstrained userId known url).bind
        fun middle podcast htake hmiddle => ?_
      have hhas := has_of_take_podcast hknown htake
      refine (turn_row_performs hmiddle.constrained hhas true time).bind
        fun turned first _ hturned => ?_
      have hleft : ∀ podcast ∈ known.filter fun podcast => podcast.row.url != url,
          turned.podcasts.Has podcast.id := fun other hother =>
        hturned.podcasts (hmiddle.podcasts (hknown other (List.mem_filter.mp hother).1))
      exact (ih hturned.constrained hleft).bind fun last others _ hlast =>
        .pure hlast.constrained _

/-- The ends of subscriptions to addresses are performed. -/
theorem end_each_performs (hconstrained : store.Constrained) (urls : List String) :
    Performs store (guarded.endEach userId time urls) (plain.endEach userId time urls) := by
  induction urls generalizing store with
  | nil => exact .pure hconstrained []
  | cons url rest ih =>
      refine .seen fun found? hselect => ?_
      cases found? with
      | none => exact ih hconstrained
      | some podcast =>
          obtain ⟨_, _, hfind⟩ := bind_eq_ok_iff.mp hselect
          obtain ⟨hmem, _⟩ := Store.mem_of_find_podcast (Except.ok.inj hfind)
          refine (turn_row_performs hconstrained (Table.has_of_mem hmem) false time).bind
            fun middle first _ hmiddle => ?_
          exact (ih hmiddle.constrained).bind fun last others _ hlast => .pure hlast.constrained _

/-- The replacement of subscriptions is performed, whatever the order of the rows. -/
theorem replace_subscriptions_performs (hconstrained : store.Constrained)
    {order : List (Entry Podcast) → List (Entry Podcast)} (horder : ∀ rows, (order rows).Perm rows)
    (userName device : String) (timestamp : Instant) (raws : List String) :
    Performs store (guarded.replaceSubscriptions order userName device timestamp raws)
      (plain.replaceSubscriptions order userName device timestamp raws) := by
  refine .after fun _ _ => .seen fun user _ => ?_
  refine (register_device_performs hconstrained user.id device).bind
    fun registered registration _ hregistered => .seen fun known hread => ?_
  have hknown : ∀ podcast ∈ known, registered.podcasts.Has podcast.id := by
    cases hread
    exact fun podcast hmem =>
      Table.has_of_mem (List.mem_filter.mp ((horder _).mem_iff.mp hmem)).1
  refine (end_rows_performs hregistered.constrained _ hknown).bind
    fun ended unsubscribed _ hended => ?_
  refine (subscribe_each_performs hended.constrained (fun podcast hmem => ?_) _).bind
    fun last subscribed _ hlast => .pure hlast.constrained _
  obtain ⟨old, hold, rfl⟩ := List.mem_map.mp hmem
  have hhas := hended.podcasts (hknown old hold)
  split <;> exact hhas

/-- A change of subscriptions is performed. -/
theorem change_subscriptions_performs (hconstrained : store.Constrained) (userName device : String)
    (timestamp : Instant) (add remove : List String) :
    Performs store (guarded.changeSubscriptions userName device timestamp add remove)
      (plain.changeSubscriptions userName device timestamp add remove) := by
  refine .after fun _ _ => ?_
  dsimp only
  cases (Web.canonicalAll add).find? (Web.canonicalAll remove).contains with
  | some url => exact .error _
  | none =>
      refine .seen fun user _ => ?_
      refine (register_device_performs hconstrained user.id device).bind
        fun registered registration _ hregistered => ?_
      refine (subscribe_each_performs hregistered.constrained (List.forall_mem_nil _) _).bind
        fun subscribed rows _ hsubscribed => ?_
      exact (end_each_performs hsubscribed.constrained _).bind
        fun last others _ hlast => .pure hlast.constrained _

/-! ## Batches of actions -/

/-- A thing is recalled as it is found. -/
theorem recall_text_performs (hconstrained : store.Constrained)
    {find : String → Procedure Report Int} {find' : String → Procedure Failure Int} {text : String}
    (hfind : Performs store (find text) (find' text)) (memory : Memory) :
    Performs store (recallText find memory text) (recallText find' memory text) := by
  cases hlookup : memory.lookup text with
  | some id =>
      rw [recall_text_of_some hlookup, recall_text_of_some hlookup]
      exact .pure hconstrained _
  | none =>
      rw [recall_text_of_none hlookup, recall_text_of_none hlookup]
      exact hfind.bind fun next id _ hnext => .pure hnext.constrained _

/-- The recall of the device of an action is performed. -/
theorem recall_device_performs (hconstrained : store.Constrained) (userId : Int) (memory : Memory)
    (device : Option String) :
    Performs store (guarded.recallDevice userId memory device)
      (plain.recallDevice userId memory device) := by
  cases device with
  | none => exact .pure hconstrained _
  | some name =>
      have hfind : Performs store (guarded.deviceId userId name) (plain.deviceId userId name) :=
        (register_device_performs hconstrained userId name).map _
      exact (recall_text_performs hconstrained hfind memory).bind
        fun _ _ _ hnext => .pure hnext.constrained _

/-- The placing of actions is performed. -/
theorem place_performs (hconstrained : store.Constrained) (userId : Int) (devices podcasts : Memory)
    (actions : List ValidAction) :
    Performs store (guarded.place userId devices podcasts actions)
      (plain.place userId devices podcasts actions) := by
  induction actions generalizing store devices podcasts with
  | nil => exact .pure hconstrained _
  | cons action actions ih =>
      refine (recall_device_performs hconstrained userId devices action.device).bind
        fun first _ _ hfirst => ?_
      have hpodcast : Performs first (guarded.podcastId userId action.podcast)
          (plain.podcastId userId action.podcast) :=
        (insert_podcast_performs hfirst.constrained userId action.podcast).map _
      refine (recall_text_performs hfirst.constrained hpodcast podcasts).bind
        fun second recalled _ hsecond => ?_
      have hepisode : Performs second
          (guarded.episodeId recalled.2 action.episode action.guid)
          (plain.episodeId recalled.2 action.episode action.guid) :=
        (insert_episode_performs hsecond.constrained _ action.episode action.guid).map _
      refine hepisode.bind fun third _ _ hthird => ?_
      exact (ih hthird.constrained _ _).bind fun last _ _ hlast => .pure hlast.constrained _

/-- The insertion of rows is performed, also if there are none. -/
theorem insert_actions_performs (hconstrained : store.Constrained) (rows : List EpisodeAction) :
    Performs store (guarded.insertActions rows) (plain.insertActions rows) := by
  unfold RowStatements.insertActions
  split
  · exact .pure hconstrained []
  · exact append_actions_performs hconstrained rows

/-- A batch of actions is performed. -/
theorem add_actions_performs (hconstrained : store.Constrained) (userName : String)
    (uploads : List ActionUpload) :
    Performs store (guarded.addActions userName uploads) (plain.addActions userName uploads) := by
  refine .after fun actions _ => .seen fun user _ => ?_
  refine (place_performs hconstrained user.id [] [] actions).bind fun placed rows _ hplaced => ?_
  exact (insert_actions_performs hplaced.constrained rows).bind
    fun last entries _ hlast => .pure hlast.constrained _

end PodcastLedger.Guarded
