import PodcastLedger.Proofs.Constraints.Refusals
import PodcastLedger.Proofs.Log.Logging

/-!
# Batches of actions

A client may cut what it has to upload into batches as it likes. Placing actions ignores the log
(`Store.IgnoresLog`), so it makes no difference whether earlier actions are in the log already when
later ones are placed. With that `Store.add_actions_append_iff` takes a batch apart, and
`Store.add_batches_iff` puts any number of batches together.
-/

namespace PodcastLedger

/-- A list is validated as a whole exactly if its two parts are. -/
theorem ActionUpload.validate_append_iff {first second : List ActionUpload}
    {actions : List ValidAction} :
    (first ++ second).mapM validate = .ok actions ↔
      ∃ earlier later, first.mapM validate = .ok earlier ∧ second.mapM validate = .ok later ∧
        actions = earlier ++ later := by
  rw [List.mapM_append]
  simp only [bind_eq_ok_iff]
  constructor
  · rintro ⟨earlier, hearlier, later, hlater, hactions⟩
    cases hactions
    exact ⟨earlier, later, hearlier, hlater, rfl⟩
  · rintro ⟨earlier, later, hearlier, hlater, rfl⟩
    exact ⟨earlier, hearlier, later, hlater, rfl⟩

namespace Store

/-- The operation neither reads the log nor writes to it. -/
def IgnoresLog {Result : Type} (operation : Store → Except Failure (Store × Result)) : Prop :=
  ∀ (store : Store) (log : Table EpisodeAction),
    operation { store with actions := log } =
      (operation store).map fun outcome => ({ outcome.1 with actions := log }, outcome.2)

section IgnoresLog

variable {First Second : Type} {operation : Store → Except Failure (Store × First)}
  {userId : Int} {store next : Store}

/-- An operation that ignores the log leaves it. -/
theorem IgnoresLog.log_eq (hignores : IgnoresLog operation) {result : First}
    (hoperation : operation store = .ok (next, result)) : next.actions = store.actions := by
  have hsame := hignores store store.actions
  rw [show ({ store with actions := store.actions } : Store) = store from rfl, hoperation] at hsame
  exact congrArg (fun outcome => outcome.1.actions) (Except.ok.inj hsame)

/-- Operations that ignore the log do so one after the other. -/
theorem IgnoresLog.bind (hfirst : IgnoresLog operation)
    {following : Store → First → Except Failure (Store × Second)}
    (hnext : ∀ result, IgnoresLog fun store => following store result) :
    IgnoresLog fun store => operation store >>= fun outcome => following outcome.1 outcome.2 := by
  intro store log
  dsimp only
  rw [hfirst store log]
  cases operation store with
  | error failure => rfl
  | ok outcome => exact hnext outcome.2 outcome.1 log

/-- A result alone has nothing of the log. -/
theorem ignores_log_ok (result : First) : IgnoresLog fun store => .ok (store, result) :=
  fun _ _ => rfl

/-- A condition that is not about the log may be required before. -/
theorem IgnoresLog.require (hignores : IgnoresLog operation) {condition : Store → Prop}
    [∀ store, Decidable (condition store)]
    (hcondition : ∀ (store : Store) (log : Table EpisodeAction),
      condition { store with actions := log } ↔ condition store) (statement : Statement) :
    IgnoresLog fun store => Store.require (condition store) statement >>= fun _ =>
      operation store := by
  intro store log
  dsimp only
  by_cases hstore : condition store
  · rw [require_of hstore, require_of ((hcondition store log).mpr hstore)]
    exact hignores store log
  · simp only [Store.require, if_neg hstore, if_neg (mt (hcondition store log).mp hstore)]
    rfl

/-- A device is registered whatever the log. -/
theorem ignores_log_register_device (name : String) :
    IgnoresLog fun store => store.registerDevice userId name := by
  unfold registerDevice
  cases validateName "device" name with
  | error failure => exact fun _ _ => rfl
  | ok done =>
      refine IgnoresLog.require (fun store log => ?_) (fun _ _ => Iff.rfl) .insertDevice
      rw [show ({ store with actions := log } : Store).findDevice? userId name =
        store.findDevice? userId name from rfl]
      cases store.findDevice? userId name <;> rfl

/-- A podcast is added whatever the log. -/
theorem ignores_log_insert_podcast (url : String) :
    IgnoresLog fun store => store.insertPodcast userId url := by
  refine IgnoresLog.require (fun store log => ?_) (fun _ _ => Iff.rfl) .insertPodcast
  rw [show ({ store with actions := log } : Store).findPodcast? userId url =
    store.findPodcast? userId url from rfl]
  cases store.findPodcast? userId url <;> rfl

/-- An episode is added whatever the log. -/
theorem ignores_log_insert_episode (podcastId : Int) (url : String) (guid : Option String) :
    IgnoresLog fun store => store.insertEpisode podcastId url guid := by
  refine IgnoresLog.require (fun store log => ?_) (fun _ _ => Iff.rfl) .insertEpisode
  rw [show ({ store with actions := log } : Store).findEpisode? podcastId url =
    store.findEpisode? podcastId url from rfl]
  cases store.findEpisode? podcastId url <;> rfl

/-- The device of an action is placed whatever the log. -/
theorem ignores_log_place_device (device : Option String) :
    IgnoresLog fun store => store.placeDevice userId device := by
  cases device with
  | none => exact ignores_log_ok none
  | some name =>
      exact (ignores_log_register_device name).bind fun registration =>
        ignores_log_ok (some registration.device.id)

/-- An action is placed whatever the log. -/
theorem ignores_log_place_action (action : ValidAction) :
    IgnoresLog fun store => store.placeAction userId action :=
  (ignores_log_place_device action.device).bind fun deviceId =>
    (ignores_log_insert_podcast action.podcast).bind fun podcast =>
      (ignores_log_insert_episode podcast.id action.episode action.guid).bind fun episode =>
        ignores_log_ok (⟨action.kind, deviceId, podcast.id, episode.id, action.timestamp,
          action.started, action.position, action.total⟩ : EpisodeAction)

/-- Actions are placed whatever the log. -/
theorem ignores_log_place_actions (actions : List ValidAction) :
    IgnoresLog fun store => store.placeActions userId actions := by
  induction actions with
  | nil => exact ignores_log_ok []
  | cons action actions ih =>
      exact (ignores_log_place_action action).bind fun row =>
        ih.bind fun rows => ignores_log_ok (row :: rows)

/-- Actions are placed beside another log as they are placed beside this one. -/
theorem place_actions_beside_iff {actions : List ValidAction} {log : Table EpisodeAction}
    {rows : List EpisodeAction} :
    placeActions { store with actions := log } userId actions = .ok (next, rows) ↔
      ∃ placed, store.placeActions userId actions = .ok (placed, rows) ∧
        next = { placed with actions := log } := by
  have hbeside : placeActions { store with actions := log } userId actions =
      (store.placeActions userId actions).map fun placed =>
        ({ placed.1 with actions := log }, placed.2) :=
    ignores_log_place_actions actions store log
  rw [hbeside, map_eq_ok_iff]
  constructor
  · rintro ⟨⟨placed, others⟩, hplace, hnext⟩
    cases hnext
    exact ⟨placed, hplace, rfl⟩
  · rintro ⟨placed, hplace, rfl⟩
    exact ⟨(placed, rows), hplace, rfl⟩

end IgnoresLog

variable {store next : Store} {userId : Int} {userName : String}
  {first second : List ActionUpload} {added : ActionsAdded}

/-! ## Lists in two parts -/

/-- A list is placed as a whole exactly if its first part is placed and then its second one. -/
theorem place_actions_append_iff {earlier later : List ValidAction} {rows : List EpisodeAction} :
    store.placeActions userId (earlier ++ later) = .ok (next, rows) ↔
      ∃ middle before after, store.placeActions userId earlier = .ok (middle, before) ∧
        middle.placeActions userId later = .ok (next, after) ∧ rows = before ++ after := by
  induction earlier generalizing store rows with
  | nil =>
      constructor
      · exact fun hplace => ⟨store, [], rows, rfl, hplace, rfl⟩
      · rintro ⟨_, _, _, hnothing, hplace, rfl⟩
        cases hnothing
        exact hplace
  | cons action earlier ih =>
      simp only [List.cons_append, placeActions, bind_eq_ok_iff]
      constructor
      · rintro ⟨⟨placed, row⟩, hrow, ⟨last, others⟩, hothers, hresult⟩
        cases hresult
        obtain ⟨middle, before, after, hbefore, hafter, rfl⟩ := ih.mp hothers
        exact ⟨middle, row :: before, after, ⟨(placed, row), hrow, (middle, before), hbefore, rfl⟩,
          hafter, rfl⟩
      · rintro ⟨middle, _, after, ⟨⟨placed, row⟩, hrow, ⟨last, before⟩, hbefore, hresult⟩,
          hafter, rfl⟩
        cases hresult
        exact ⟨(placed, row), hrow, (next, before ++ after),
          ih.mpr ⟨last, before, after, hbefore, hafter, rfl⟩, rfl⟩

/-- What is appended depends on the log only. -/
theorem append_actions_beside (store other : Store) (rows : List EpisodeAction)
    (hlog : other.actions = store.actions) :
    other.appendActions rows =
      ({ other with actions := (store.appendActions rows).1.actions },
        (store.appendActions rows).2) := by
  induction rows generalizing store other with
  | nil =>
      unfold appendActions
      rw [← hlog]
  | cons row rows ih =>
      have hinsert : other.actions.insert (keptAction row) =
          store.actions.insert (keptAction row) := by rw [hlog]
      have hrest := ih { store with actions := store.actions.insert (keptAction row) }
        { other with actions := other.actions.insert (keptAction row) } hinsert
      unfold appendActions
      rw [show other.actions.next = store.actions.next from congrArg Table.next hlog]
      exact congrArg (fun appended => (appended.1, _ :: appended.2)) hrest

/-- Rows are appended in two parts as they are appended at once. -/
theorem append_actions_append (store : Store) (rows others : List EpisodeAction) :
    store.appendActions (rows ++ others) =
      (((store.appendActions rows).1.appendActions others).1,
        (store.appendActions rows).2 ++ ((store.appendActions rows).1.appendActions others).2) := by
  induction rows generalizing store with
  | nil => rfl
  | cons row rows ih =>
      exact congrArg (fun appended => (appended.1, _ :: appended.2))
        (ih { store with actions := store.actions.insert (keptAction row) })

/-! ## Batches -/

/-- What is placed for valid actions leaves the accounts, and its rows can be refused for their times
only. -/
theorem placed_of_valid {actions : List ValidAction} {rows : List EpisodeAction}
    (hvalidate : first.mapM ActionUpload.validate = .ok actions)
    (hplace : store.placeActions userId actions = .ok (next, rows)) :
    next.users = store.users ∧
      ∀ row ∈ rows, (next.AcceptsAction row ↔ row.occurredAt.IsStorable) := by
  have hallowed : ∀ action ∈ actions,
      action.kind.Allows [action.started, action.position, action.total] := by
    intro action hmem
    obtain ⟨upload, _, hvalid⟩ := validate_all_ok hvalidate action hmem
    exact validate_ok hvalid
  obtain ⟨hgrowth, hplaced⟩ : Growth userId none store next ∧ _ := place_actions_ok hallowed hplace
  refine ⟨hgrowth.writes.users_eq, fun row hmem => ⟨fun haccepts => haccepts.2.2.2.1, ?_⟩⟩
  exact accepts_placed (hplaced row hmem).1 (hplaced row hmem).2

/-- A batch is stored exactly if its actions are valid, the user is known, the actions are placed
and their times can be stored. What is placed is then appended to the log. -/
theorem add_actions_iff :
    store.addActions userName first = .ok (next, added) ↔
      ∃ actions user placed rows, first.mapM ActionUpload.validate = .ok actions ∧
        store.loadUser userName = .ok user ∧
        store.placeActions user.id actions = .ok (placed, rows) ∧
        (∀ row ∈ rows, row.occurredAt.IsStorable) ∧
        placed.appendActions rows = (next, added.actions) ∧
        added.rewrites =
          Web.rewrites (first.flatMap fun upload => [upload.podcast, upload.episode]) := by
  simp only [addActions, insertActions, bind_eq_ok_iff, require_eq_ok_iff]
  constructor
  · rintro ⟨actions, hvalidate, user, hload, ⟨placed, rows⟩, hplace, ⟨last, entries⟩,
      ⟨_, haccepts, hinsert⟩, hresult⟩
    cases hresult
    exact ⟨actions, user, placed, rows, hvalidate, hload, hplace,
      (forall₂_congr (placed_of_valid hvalidate hplace).2).mp haccepts, Except.ok.inj hinsert, rfl⟩
  · rintro ⟨actions, user, placed, rows, hvalidate, hload, hplace, hstorable, happend, hrewrites⟩
    refine ⟨actions, hvalidate, user, hload, (placed, rows), hplace, (next, added.actions),
      ⟨(), (forall₂_congr (placed_of_valid hvalidate hplace).2).mpr hstorable,
        congrArg _ happend⟩, ?_⟩
    rw [← hrewrites]

/-- Rows for two parts of a list are appended after both parts were placed as they are if the second
part is placed when the rows for the first one are in the log. -/
theorem append_placed {actions : List ValidAction} {rows : List EpisodeAction}
    (hplace : store.placeActions userId actions = .ok (next, rows)) (earlier : List EpisodeAction) :
    let appended := store.appendActions earlier
    let rest := ({ next with actions := appended.1.actions } : Store).appendActions rows
    next.appendActions (earlier ++ rows) = (rest.1, appended.2 ++ rest.2) := by
  have hlog : next.actions = store.actions :=
    (ignores_log_place_actions actions).log_eq hplace
  dsimp only
  rw [append_actions_append, append_actions_beside store next earlier hlog]

/-- A batch is stored exactly if its first part is stored and then its second part. What is left is
the same, and the answers are put together. -/
theorem add_actions_append_iff :
    store.addActions userName (first ++ second) = .ok (next, added) ↔
      ∃ middle earlier later, store.addActions userName first = .ok (middle, earlier) ∧
        middle.addActions userName second = .ok (next, later) ∧
        added = ⟨earlier.actions ++ later.actions, earlier.rewrites ++ later.rewrites⟩ := by
  simp only [add_actions_iff, ActionUpload.validate_append_iff, List.flatMap_append]
  constructor
  · rintro ⟨_, user, placed, _, ⟨earlier, later, hearlier, hlater, rfl⟩, hload, hplace, htimes,
      happend, hrewrites⟩
    obtain ⟨middle, rows, others, hrows, hothers, rfl⟩ := place_actions_append_iff.mp hplace
    obtain ⟨htimesFirst, htimesSecond⟩ := List.forall_mem_append.mp htimes
    rw [append_placed hothers rows] at happend
    have hmiddle := (middle.append_actions_spec rows).1
    have husers : (middle.appendActions rows).1.users = store.users := by
      rw [hmiddle]
      exact (placed_of_valid hearlier hrows).1
    have hbeside : (middle.appendActions rows).1.placeActions user.id later =
        .ok ({ placed with actions := (middle.appendActions rows).1.actions }, others) := by
      rw [hmiddle]
      exact place_actions_beside_iff.mpr ⟨placed, hothers, rfl⟩
    have hnext := congrArg Prod.fst happend
    refine ⟨_, ⟨_, _⟩, ⟨(appendActions _ others).2, _⟩,
      ⟨earlier, user, middle, rows, hearlier, hload, hrows, htimesFirst, rfl, rfl⟩,
      ⟨later, user, _, others, hlater, (load_user_of_users_eq husers userName).trans hload, hbeside,
        htimesSecond, Prod.ext hnext rfl, rfl⟩, ?_⟩
    obtain ⟨actions, rewrites⟩ := added
    obtain rfl : _ = actions := congrArg Prod.snd happend
    exact congrArg _ (hrewrites.trans List.filterMap_append)
  · rintro ⟨between, ⟨_, _⟩, ⟨_, _⟩,
      ⟨earlier, user, middle, rows, hearlier, hload, hrows, htimesFirst, hfirst, rfl⟩,
      ⟨later, again, last, others, hlater, hagain, hothers, htimesSecond, hsecond, rfl⟩, rfl⟩
    have hbetween := (middle.append_actions_spec rows).1
    rw [hfirst] at hbetween
    change between = { middle with actions := between.actions } at hbetween
    have husers : between.users = store.users := by
      rw [hbetween]
      exact (placed_of_valid hearlier hrows).1
    rw [load_user_of_users_eq husers, hload] at hagain
    cases hagain
    rw [hbetween] at hothers
    obtain ⟨placed, hplaced, rfl⟩ := place_actions_beside_iff.mp hothers
    refine ⟨earlier ++ later, user, placed, rows ++ others, ⟨earlier, later, hearlier, hlater, rfl⟩,
      hload, place_actions_append_iff.mpr ⟨middle, rows, others, hrows, hplaced, rfl⟩,
      List.forall_mem_append.mpr ⟨htimesFirst, htimesSecond⟩, ?_, List.filterMap_append.symm⟩
    rw [append_placed hplaced rows, hfirst]
    dsimp only
    rw [hsecond]

/-- With memory a batch is stored exactly if its first part is stored and then its second part, with
nothing remembered. -/
theorem add_actions_remembering_append_iff :
    store.addActionsRemembering userName (first ++ second) = .ok (next, added) ↔
      ∃ middle earlier later, store.addActionsRemembering userName first = .ok (middle, earlier) ∧
        middle.addActionsRemembering userName second = .ok (next, later) ∧
        added = ⟨earlier.actions ++ later.actions, earlier.rewrites ++ later.rewrites⟩ := by
  simp only [add_actions_remembering]
  exact add_actions_append_iff

/-- Stores batches of actions of a user one after the other, each with a memory of its own. -/
def addBatches (store : Store) (userName : String) :
    List (List ActionUpload) → Except Failure (Store × ActionsAdded)
  | [] => .ok (store, ⟨[], []⟩)
  | batch :: batches => do
    let (store, earlier) ← store.addActionsRemembering userName batch
    let (store, later) ← store.addBatches userName batches
    .ok (store, ⟨earlier.actions ++ later.actions, earlier.rewrites ++ later.rewrites⟩)

/-- However many batches a client makes of its actions, they are stored exactly if they are stored as
one batch. What is left is the same, and the answers are put together. -/
theorem add_batches_iff {batch : List ActionUpload} {batches : List (List ActionUpload)} :
    store.addBatches userName (batch :: batches) = .ok (next, added) ↔
      store.addActionsRemembering userName (batch ++ batches.flatten) = .ok (next, added) := by
  induction batches generalizing store batch added with
  | nil =>
      simp only [addBatches, bind_eq_ok_iff, List.flatten_nil, List.append_nil]
      constructor
      · rintro ⟨⟨last, stored⟩, hstored, _, hnothing, hresult⟩
        cases hnothing
        cases hresult
        simpa using hstored
      · exact fun hstored => ⟨(next, added), hstored, _, rfl, by simp⟩
  | cons other batches ih =>
      rw [addBatches, List.flatten_cons, add_actions_remembering_append_iff]
      simp only [bind_eq_ok_iff]
      constructor
      · rintro ⟨⟨middle, earlier⟩, hearlier, ⟨last, later⟩, hlater, hresult⟩
        cases hresult
        exact ⟨middle, earlier, later, hearlier, ih.mp hlater, rfl⟩
      · rintro ⟨middle, earlier, later, hearlier, hlater, rfl⟩
        exact ⟨(middle, earlier), hearlier, (next, later), ih.mpr hlater, rfl⟩

/-- A batch is stored, with memory of what was found for earlier actions, exactly if its first part
is stored and then its second part with nothing remembered. Either way the same store is left, and
the actions and the rewrites of the batch are those of the first part followed by those of the
second part. So it is with any number of parts. -/
theorem add_actions_in_two_parts (store : Store) (userName : String) :
    (∀ first second next added,
      store.addActionsRemembering userName (first ++ second) = .ok (next, added) ↔
        ∃ middle earlier later,
          store.addActionsRemembering userName first = .ok (middle, earlier) ∧
          middle.addActionsRemembering userName second = .ok (next, later) ∧
          added.actions = earlier.actions ++ later.actions ∧
          added.rewrites = earlier.rewrites ++ later.rewrites) ∧
    ∀ batch batches next added,
      store.addBatches userName (batch :: batches) = .ok (next, added) ↔
        store.addActionsRemembering userName (batch ++ batches.flatten) = .ok (next, added) := by
  refine ⟨fun first second next added => ?_, fun _ _ _ _ => add_batches_iff⟩
  rw [add_actions_remembering_append_iff]
  refine exists₃_congr fun middle earlier later =>
    and_congr_right fun _ => and_congr_right fun _ => ?_
  obtain ⟨actions, rewrites⟩ := added
  simp only [ActionsAdded.mk.injEq]

end Store

end PodcastLedger
