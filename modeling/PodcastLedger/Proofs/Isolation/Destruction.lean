import PodcastLedger.Proofs.Isolation.Noninterference
import PodcastLedger.Proofs.Ledger.Evolution
import PodcastLedger.Proofs.Uploads.Uploaded

/-!
# Destroyed accounts

Destroying an account deletes from the leaves up so that every row is counted where it goes. What is
left is what the cascades of the schema leave when the row of the user alone is deleted
(`Store.delete_user_eq`), and each table is shorter by just the rows that were counted. Nothing of
the user remains: a later account of the name is answered as if there had never been one before,
which `Store.destroy_user_exact` states with the rest.
-/

namespace PodcastLedger

namespace Table

variable {Row : Type} {table : Table Row}

/-- To remove rows twice is to remove them at once. -/
theorem remove_remove (first second : Entry Row → Bool) :
    (table.remove first).remove second =
      table.remove fun entry => first entry || second entry := by
  refine ext ?_ rfl
  rw [entries_remove, entries_remove, entries_remove, List.filter_filter]
  refine List.filter_congr fun entry _ => ?_
  rw [Bool.not_or, Bool.and_comm]

/-- Conditions that agree on all rows remove the same rows. -/
theorem remove_congr {first second : Entry Row → Bool}
    (hsame : ∀ entry ∈ table.entries, first entry = second entry) :
    table.remove first = table.remove second := by
  refine ext (List.filter_congr fun entry hmem => ?_) rfl
  rw [hsame entry hmem]

/-- A change to rows that are removed makes no difference. -/
theorem remove_modify {condition gone : Entry Row → Bool} {change : Row → Row}
    (hgone : ∀ entry ∈ table.entries, condition entry = true →
      gone entry = true ∧ gone ⟨entry.id, change entry.row⟩ = true) :
    (table.modify condition change).remove gone = table.remove gone := by
  have hsame : SameOn (fun entry => !gone entry) (fun entry => !gone entry) table
      (table.modify condition change) :=
    .modify fun entry hmem hcondition => by simp [hgone entry hmem hcondition]
  exact ext hsame.entries rfl

/-- A table is shorter by the rows that are removed. -/
theorem length_remove (condition : Entry Row → Bool) :
    table.entries.length =
      (table.remove condition).entries.length + table.entries.countP condition := by
  rw [entries_remove, ← List.countP_eq_length_filter, Nat.add_comm]
  simpa using List.length_eq_countP_add_countP condition

end Table

namespace Store

variable {store next : Store} {userId : Int} {user : Entry User}

/-! ## The cascades of the schema -/

/-- The id of a user is the only one that is deleted with the row of the user. -/
theorem deletes_user_eq (hmem : user ∈ store.users.entries) :
    deletes store.users (fun other => other.id == user.id) = fun id => id == user.id := by
  funext id
  rw [Bool.eq_iff_iff, beq_iff_eq]
  constructor
  · exact eq_of_deletes_id
  · rintro rfl
    exact deletes_eq_true_iff.mpr ⟨user, hmem, beq_self_eq_true _, rfl⟩

/-- With the row of a user the schema deletes what is the user's, and nothing else. -/
theorem Consistent.delete_user_eq (hconsistent : store.Consistent)
    (hmem : user ∈ store.users.entries) :
    store.deleteUsers (fun other => other.id == user.id) = store.withoutUser user.id := by
  -- An action from a device of the user is one of a podcast of the user, so it is not detached but
  -- goes; and so do the actions of episodes that go.
  have hactions : ((store.actions.modify
        (fun action => action.row.deviceId.any
          (deletes store.devices fun device => device.row.userId == user.id))
        fun action => { action with deviceId := none }).remove
          fun action => deletes store.episodes
            (fun episode => store.ownsPodcast user.id episode.row.podcastId)
            action.row.episodeId).remove
          (fun action => store.ownsPodcast user.id action.row.podcastId) =
      store.actions.remove fun action => store.ownsPodcast user.id action.row.podcastId := by
    rw [Table.remove_remove, Table.remove_modify fun action haction hdetached => ?_]
    · refine Table.remove_congr fun action haction => ?_
      obtain ⟨_, _, hplaces⟩ := hconsistent.actions_placed action haction
      refine Bool.or_eq_right_iff_imp.mpr fun hgone => ?_
      exact owns_podcast_iff.mpr (has_podcast_of_deletes_episode hplaces.episode hgone)
    · obtain ⟨ownerId, _, hplaces⟩ := hconsistent.actions_placed action haction
      obtain ⟨deviceId, hdevice, hgone⟩ := (Option.any_eq_true ..).mp hdetached
      have howner := (deletes_devices_iff.mp hgone).owner_unique (hplaces.device deviceId hdevice)
      have howns : store.ownsPodcast user.id action.row.podcastId = true :=
        owns_podcast_iff.mpr (howner ▸ hplaces.podcast)
      simp [howns]
  have hsettings : (((store.settings.remove fun setting => setting.row.target.device?.any
        (deletes store.devices fun device => device.row.userId == user.id)).remove
        fun setting => setting.row.target.episode?.any (deletes store.episodes
          fun episode => store.ownsPodcast user.id episode.row.podcastId)).remove
        fun setting => setting.row.target.podcast?.any (store.ownsPodcast user.id)).remove
        (fun setting => setting.row.userId == user.id) =
      store.settings.remove fun setting => setting.row.userId == user.id := by
    rw [Table.remove_remove, Table.remove_remove, Table.remove_remove]
    refine Table.remove_congr fun setting hsetting => ?_
    obtain ⟨_, howns⟩ := hconsistent.settings_owned setting hsetting
    rw [← Bool.or_assoc, ← Bool.or_assoc]
    refine Bool.or_eq_right_iff_imp.mpr fun hgone => ?_
    simp only [Bool.or_eq_true, Option.any_eq_true] at hgone
    rw [beq_iff_eq]
    rcases hgone with (⟨deviceId, hdevice, hgone⟩ | ⟨episodeId, hepisode, hgone⟩) |
      ⟨podcastId, hpodcast, hgone⟩
    · exact (howns.device deviceId hdevice).owner_unique (deletes_devices_iff.mp hgone)
    · obtain ⟨podcastId, _, hpodcast, hof⟩ := howns.episode episodeId hepisode
      exact hpodcast.owner_unique (has_podcast_of_deletes_episode hof hgone)
    · exact (howns.podcast podcastId hpodcast).owner_unique (owns_podcast_iff.mp hgone)
  unfold deleteUsers deletePodcasts deleteEpisodes deleteDevices withoutUser
  simp only [deletes_user_eq hmem]
  unfold ownsPodcast at hactions hsettings
  unfold ownsPodcast
  rw [hactions, hsettings]

/-! ## Counts -/

/-- Each table is shorter by as many rows as were counted for it. -/
structure Shrinks (store next : Store) (counts : DestroyedUser) : Prop where
  settings : store.settings.entries.length = next.settings.entries.length + counts.settings
  actions : store.actions.entries.length = next.actions.entries.length + counts.episodeActions
  episodes : store.episodes.entries.length = next.episodes.entries.length + counts.episodes
  podcasts : store.podcasts.entries.length = next.podcasts.entries.length + counts.podcasts
  devices : store.devices.entries.length = next.devices.entries.length + counts.devices
  users : store.users.entries.length = next.users.entries.length + counts.users

/-- The rows are counted that go, in each table before anything that refers to them is gone. -/
theorem shrinks_without_user (store : Store) (userId : Int) :
    store.Shrinks (store.withoutUser userId) (store.destroyAccount userId).2 where
  settings := Table.length_remove _
  actions := Table.length_remove _
  episodes := Table.length_remove _
  podcasts := Table.length_remove _
  devices := Table.length_remove _
  users := Table.length_remove _

/-! ## Later accounts of the name -/

/-- An account is created only under a name that keeps the rules of names. -/
theorem create_user_name {name password : String} {workFactor : Nat} {created : Entry User}
    (hcreate : store.createUser name password workFactor = .ok (next, created)) : IsName name := by
  simp only [createUser, bind_eq_ok_iff] at hcreate
  obtain ⟨_, hvalidate, _⟩ := hcreate
  exact validateName_eq_ok_iff.mp hvalidate

/-- A step leaves all names of users as the rules have them. -/
theorem user_names_step (hnamed : store.users.All fun user => IsName user.name) (name : String)
    (request : Request) : (store.step name request).1.users.All fun user => IsName user.name := by
  cases hanswer : store.answer name request with
  | error failure =>
      rw [step_of_error hanswer]
      exact hnamed
  | ok result =>
      obtain ⟨next, answer⟩ := result
      rw [step_of_answer hanswer]
      cases answer_effect hanswer with
      | create hname =>
          obtain ⟨_, hcreate, _⟩ := write_ok hanswer
          exact hnamed.insert (hname ▸ create_user_name hcreate)
      | destroy => exact hnamed.remove _
      | nothing => exact hnamed
      | writes _ hwrites =>
          rw [hwrites.users_eq]
          exact hnamed

/-- All users there are have names that keep the rules of names. -/
theorem Reachable.user_names (hreachable : store.Reachable) :
    store.users.All fun user => IsName user.name := by
  induction hreachable with
  | empty => exact fun _ hmem => nomatch hmem
  | step _ name request ih => exact user_names_step ih name request

/-- An account can be created under a name that is free. -/
theorem create_user_of_free {name password : String} {workFactor : Nat} (hname : IsName name)
    (hpassword : minPasswordLength ≤ password.utf8ByteSize)
    (hleast : minWorkFactor ≤ workFactor) (hmost : workFactor ≤ maxWorkFactor)
    (hfree : store.findUser? name = none) :
    ∃ next created, store.createUser name password workFactor = .ok (next, created) ∧
      created.row = ⟨name, false, workFactor⟩ := by
  have hothers := name_ne_of_find_user hfree
  have hvalidate : validateName "user" name = .ok () := validateName_eq_ok_iff.mpr hname
  have hrow : name ≠ "" ∧ IsBindable name ∧
      ∀ other ∈ store.users.entries, other.row.name ≠ name := ⟨hname.1, hname.bindable, hothers⟩
  unfold createUser insertUser
  rw [hvalidate, hfree]
  simp only [bind, Except.bind]
  rw [if_neg (Nat.not_lt.mpr hpassword), if_neg (by omega), Option.isSome_none,
    if_neg Bool.false_ne_true, require_of hrow]
  exact ⟨_, _, rfl, rfl⟩

/-- Where a name is free, later steps of a user of the name are answered as in the empty store with
no one else. -/
theorem answers_where_free (hconsistent : store.Consistent) {name : String}
    (hfree : store.findUser? name = none) (session : List (String × Request)) :
    answersTo name session (store.run session).2 =
      (Store.empty.run (stepsOf name session)).2.map shownAnswer :=
  (Beside.absent hconsistent consistent_empty hfree rfl).run session

/-- Destroying an account leaves the store as deleting the row of the user alone does, with the
cascades of the schema: without the rows of the user, and with all rows of other users as they were.
Each count is the number of rows that its table lost. The name is free then, so that an account can
be created for it again; and whatever happens later, what is asked under the name is answered as in
any store where there never was an account of the name. -/
theorem destroy_user_exact (hreachable : store.Reachable) (hmem : user ∈ store.users.entries) :
    ∃ next counts, store.destroyUser user.row.name = .ok (next, counts) ∧
      next = store.deleteUsers (fun other => other.id == user.id) ∧
      next = store.withoutUser user.id ∧
      store.Shrinks next counts ∧
      (∀ otherId, otherId ≠ user.id → SameFor otherId store next) ∧
      (∀ password workFactor, minPasswordLength ≤ password.utf8ByteSize →
        minWorkFactor ≤ workFactor → workFactor ≤ maxWorkFactor →
        ∃ last created, next.createUser user.row.name password workFactor = .ok (last, created) ∧
          created.row = ⟨user.row.name, false, workFactor⟩) ∧
      ∀ other : Store, other.Reachable → other.findUser? user.row.name = none →
        ∀ session, answersTo user.row.name session (next.run session).2 =
          answersTo user.row.name session (other.run session).2 := by
  have hconsistent := hreachable.consistent
  have hfree := find_user_without_user hconsistent hmem
  refine ⟨store.withoutUser user.id, (store.destroyAccount user.id).2, ?_,
    (hconsistent.delete_user_eq hmem).symm, rfl, store.shrinks_without_user user.id,
    fun otherId hother => .without_user hother.symm,
    fun password workFactor hpassword hleast hmost =>
      create_user_of_free (hreachable.user_names user hmem) hpassword hleast hmost hfree,
    fun other hother hotherFree session => ?_⟩
  · unfold destroyUser
    rw [hconsistent.load_user hmem, ← destroy_account_eq hconsistent]
    rfl
  · rw [answers_where_free (hconsistent.without_user user.id) hfree,
      answers_where_free hother.consistent hotherFree]

/-- Two users have the same podcast, and one of them a device, an episode, two actions and settings
of three things as well. -/
def sharedPodcast : List (String × Request) :=
  let upload := fun device => ActionUpload.mk "download" device "http://a.example/1" none
    "http://a.example/feed" none none (.ofUnix 1000) none
  let key := fun scope => KeyTexts.mk scope (some "phone") (some "http://a.example/feed") none
  [("ann", .createUser "long enough" 10), ("bob", .createUser "long enough" 10),
    ("bob", .replaceSubscriptions "laptop" (.ofUnix 500) ["http://a.example/feed"]),
    ("ann", .addActions [upload (some "phone"), upload none]),
    ("ann", .saveSettings (key "account") [("theme", "dark")] []),
    ("ann", .saveSettings (key "device") [("theme", "dark")] []),
    ("ann", .saveSettings (key "podcast") [("theme", "dark")] [])]

/-- Nine rows go with the user, each counted once, and none of the other user. -/
theorem destroy_user_of_shared_podcast :
    let store := (Store.empty.run sharedPodcast).1
    ∃ next counts, store.destroyUser "ann" = .ok (next, counts) ∧
      counts = ⟨1, 2, 1, 1, 3, 1⟩ ∧
      next = store.deleteUsers (fun other => other.id == 1) ∧
      store.Shrinks next counts ∧ SameFor 2 store next ∧
      (∃ last created, next.createUser "ann" "long enough" 12 = .ok (last, created) ∧
        created.row = ⟨"ann", false, 12⟩) ∧
      ∀ session, answersTo "ann" session (next.run session).2 =
        answersTo "ann" session (Store.empty.run session).2 := by
  intro store
  have hreachable : store.Reachable := Reachable.empty.run sharedPodcast
  let user : Entry User := ⟨1, "ann", false, 10⟩
  obtain ⟨hmem, hcounts⟩ : user ∈ store.users.entries ∧
      (store.destroyAccount user.id).2 = ⟨1, 2, 1, 1, 3, 1⟩ := by
    decide +kernel
  clear_value store
  obtain ⟨next, counts, hdestroy, hcascade, _, hshrinks, hothers, hcreate, hanswers⟩ :=
    destroy_user_exact hreachable hmem
  have hsame : store.destroyUser "ann" = .ok (store.destroyAccount user.id) := by
    have hload := hreachable.consistent.load_user hmem
    unfold destroyUser
    rw [show store.loadUser "ann" = .ok user from hload]
    rfl
  obtain ⟨_, rfl⟩ := Prod.mk.inj (Except.ok.inj (hsame.symm.trans hdestroy))
  exact ⟨next, _, hdestroy, hcounts, hcascade, hshrinks, hothers 2 (by decide),
    hcreate "long enough" 12 (by decide) (by decide) (by decide),
    hanswers Store.empty .empty rfl⟩

end Store

end PodcastLedger
