import PodcastLedger.Proofs.Isolation.Answers

/-!
# Users do not interfere

What a user is answered does not depend on what other users do. The store of a session and the store
that only the requests of one user lead to are `Store.Beside` each other: both know the user, and
then the one mirrors the other, or neither does. The user's own requests keep it so and are answered
on both sides in the same way (`Store.Beside.answer`), requests of others keep it so as well
(`Store.Beside.others`), and by induction the answers to the user are those of a session without
anyone else: `Store.users_do_not_interfere`.
-/

namespace PodcastLedger.Store

/-- The copy has no other user than the named one, and mirrors what the source keeps for this user
if there is one. -/
inductive Beside (name : String) : Store → Store → Prop where
  | present {translation : Translation} {user : Entry User} {source copy : Store}
      (hname : user.row.name = name) (hmirrors : Mirrors translation user source copy) :
      Beside name source copy
  | absent {source copy : Store} (hsource : source.Consistent) (hcopy : copy.Consistent)
      (hfree : source.findUser? name = none) (hempty : copy.users.entries = []) :
      Beside name source copy

variable {name : String} {source copy next : Store} {translation : Translation}
  {user : Entry User}

/-- The source is consistent. -/
theorem Beside.source_consistent (hbeside : Beside name source copy) : source.Consistent := by
  cases hbeside with
  | present hname hmirrors => exact hmirrors.source_consistent
  | absent hsource hcopy hfree hempty => exact hsource

/-- The user is found in the source. -/
theorem Mirrors.find_source_user (hmirrors : Mirrors translation user source copy) :
    source.findUser? user.row.name = some (translation.user user) :=
  hmirrors.source_consistent.find_user hmirrors.source_user

/-- The user is found in the copy. -/
theorem Mirrors.find_copy_user (hmirrors : Mirrors translation user source copy) :
    copy.findUser? user.row.name = some user := by
  refine hmirrors.copy_consistent.find_user ?_
  rw [hmirrors.copy_users]
  exact List.mem_singleton_self user

/-- No user is found where there is none. -/
theorem find_user_of_empty (hempty : copy.users.entries = []) (name : String) :
    copy.findUser? name = none := by
  unfold findUser? Table.find?
  rw [hempty, List.find?_nil]

/-- The user is loaded on both sides or on none. -/
theorem Beside.loads (hbeside : Beside name source copy) :
    ∃ translation user, user.row.name = name ∧ Loads translation user name source copy := by
  cases hbeside with
  | @present translation user _ _ hname hmirrors =>
      refine ⟨translation, user, hname, ?_⟩
      subst hname
      have hcopy : user ∈ copy.users.entries := by
        rw [hmirrors.copy_users]
        exact List.mem_singleton_self user
      unfold Loads
      rw [hmirrors.copy_consistent.load_user hcopy]
      have hsource := hmirrors.source_consistent.load_user hmirrors.source_user
      rw [show source.loadUser user.row.name = .ok (translation.user user) from hsource]
      exact ⟨rfl, rfl, hmirrors⟩
  | absent hsource hcopy hfree hempty =>
      let ids : Int ↪o Int := RelEmbedding.refl _
      refine ⟨⟨0, ids, ids, ids, ids, ids⟩, ⟨0, name, false, 0⟩, rfl, ?_⟩
      unfold Loads loadUser
      rw [hfree, find_user_of_empty hempty]
      split
      · exact rfl
      · exact (Agree.refl _).bind fun _ _ _ _ _ => rfl

/-! ## Accounts -/

/-- The name is taken on both sides or on none. -/
theorem Beside.taken_eq (hbeside : Beside name source copy) :
    (source.findUser? name).isSome = (copy.findUser? name).isSome := by
  cases hbeside with
  | present hname hmirrors =>
      subst hname
      rw [hmirrors.find_source_user, hmirrors.find_copy_user]
      rfl
  | absent hsource hcopy hfree hempty => rw [hfree, find_user_of_empty hempty]

/-- Where there is no user there is nothing. -/
theorem Consistent.eq_nil_of_users (hconsistent : copy.Consistent)
    (hempty : copy.users.entries = []) :
    copy.devices.entries = [] ∧ copy.podcasts.entries = [] ∧ copy.episodes.entries = [] ∧
      copy.actions.entries = [] ∧ copy.settings.entries = [] := by
  have hnobody : ∀ userId, ¬ copy.users.Has userId := by
    rintro userId ⟨user, hmem, _⟩
    rw [hempty] at hmem
    cases hmem
  have hpodcasts : copy.podcasts.entries = [] :=
    List.eq_nil_iff_forall_not_mem.mpr fun podcast hmem =>
      hnobody _ (hconsistent.podcasts_owned podcast hmem)
  refine ⟨?_, hpodcasts, ?_, ?_, ?_⟩
  · exact List.eq_nil_iff_forall_not_mem.mpr fun device hmem =>
      hnobody _ (hconsistent.devices_owned device hmem)
  · refine List.eq_nil_iff_forall_not_mem.mpr fun episode hmem => ?_
    obtain ⟨podcast, hpodcast, _⟩ := hconsistent.episodes_placed episode hmem
    rw [hpodcasts] at hpodcast
    cases hpodcast
  · refine List.eq_nil_iff_forall_not_mem.mpr fun action hmem => ?_
    obtain ⟨userId, huser, _⟩ := hconsistent.actions_placed action hmem
    exact hnobody userId huser
  · exact List.eq_nil_iff_forall_not_mem.mpr fun setting hmem =>
      hnobody _ (hconsistent.settings_owned setting hmem).1

/-- The id that a new user gets is that of no user. -/
theorem owner_ne_next {userId : Int} (hhas : source.users.Has userId) :
    (userId == source.users.next) = false :=
  beq_eq_false_iff_ne.mpr (Int.ne_of_lt (Table.lt_next_of_has hhas))

/-- A new account is one on both sides, and has nothing yet. -/
theorem mirrors_insert_user (hsource : source.Consistent) (hcopy : copy.Consistent)
    (hempty : copy.users.entries = []) (row : User) (hgiven : row.name ≠ "")
    (hbindable : IsBindable row.name) (hfree : source.findUser? row.name = none) :
    ∃ translation, Mirrors translation ⟨copy.users.next, row⟩
      { source with users := source.users.insert row }
      { copy with users := copy.users.insert row } := by
  obtain ⟨hdevices, hpodcasts, hepisodes, hactions, hsettings⟩ := hcopy.eq_nil_of_users hempty
  let translation : Translation :=
    { userId := source.users.next
      devices := Table.offset (source.devices.next - copy.devices.next)
      podcasts := Table.offset (source.podcasts.next - copy.podcasts.next)
      episodes := Table.offset (source.episodes.next - copy.episodes.next)
      actions := Table.offset (source.actions.next - copy.actions.next)
      settings := Table.offset (source.settings.next - copy.settings.next) }
  -- Nothing belongs to the new user yet, since its id is a fresh one.
  have hpodcast : ∀ podcast ∈ source.podcasts.entries,
      (podcast.row.userId == source.users.next) = false :=
    fun podcast hmem => owner_ne_next (hsource.podcasts_owned podcast hmem)
  have howns : ∀ podcastId, source.ownsPodcast source.users.next podcastId = false := by
    intro podcastId
    refine Bool.eq_false_iff.mpr fun howns => ?_
    obtain ⟨podcast, hmem, _, howner⟩ := owns_podcast_iff.mp howns
    rw [← beq_iff_eq, hpodcast podcast hmem] at howner
    cases howner
  refine ⟨translation, ?_⟩
  exact
    { source_consistent := hsource.insert_user hgiven hbindable hfree
      copy_consistent := hcopy.insert_user hgiven hbindable (find_user_of_empty hempty row.name)
      source_user := Table.mem_insert.mpr (.inr rfl)
      copy_users := by
        rw [Table.entries_insert, hempty]
        rfl
      devices := .of_empty hdevices (fun device hmem =>
        owner_ne_next (hsource.devices_owned device hmem)) translation.deviceRow
      podcasts := .of_empty hpodcasts hpodcast translation.podcastRow
      episodes := .of_empty hepisodes (fun episode _ => howns _) translation.episodeRow
      actions := .of_empty hactions (fun action _ => howns _) translation.actionRow
      settings := .of_empty hsettings (fun setting hmem =>
        owner_ne_next (hsource.settings_owned setting hmem).1) translation.settingRow }

/-- What is left on both sides after a request, and that the answers show the same. -/
def BesideShown (name : String) (first second : Store × Answer) : Prop :=
  Beside name first.1 second.1 ∧ SameShown first.2 second.2

/-- An account is created on both sides or on none. -/
theorem Beside.create_user (hbeside : Beside name source copy) (password : String)
    (workFactor : Nat) :
    Agree (fun first second => Beside name first.1 second.1 ∧ first.2.row = second.2.row)
      (source.createUser name password workFactor) (copy.createUser name password workFactor) := by
  unfold createUser
  refine Agree.after fun _ => ?_
  split
  · exact rfl
  · split
    · exact rfl
    · rw [hbeside.taken_eq]
      split
      · exact rfl
      · next hfree =>
          cases hbeside with
          -- The name is taken in both stores, which the check before has ruled out.
          | present hname hmirrors =>
              subst hname
              rw [hmirrors.find_copy_user] at hfree
              exact absurd rfl hfree
          | absent hsource hcopy hfree hempty =>
              have hnone : ∀ other ∈ copy.users.entries, other.row.name ≠ name := by
                rw [hempty]
                exact List.forall_mem_nil _
              unfold insertUser
              refine (agree_require (and_congr_right fun _ => and_congr_right fun _ =>
                iff_of_true (name_ne_of_find_user hfree) hnone) .insertUser).bind fun _ _ hpass _ _ => ?_
              obtain ⟨hgiven, hbindable, _⟩ := require_eq_ok_iff.mp hpass
              obtain ⟨translation, hmirrors⟩ :=
                mirrors_insert_user hsource hcopy hempty ⟨name, false, workFactor⟩ hgiven hbindable
                  hfree
              exact ⟨.present rfl hmirrors, rfl⟩

/-- One row is counted under an id that is there. -/
theorem count_id_eq_one {Row : Type} {table : Table Row} {entry : Entry Row}
    (hmem : entry ∈ table.entries) :
    table.entries.countP (fun other => other.id == entry.id) = 1 := by
  have hnodup : (table.entries.map Entry.id).Nodup :=
    List.pairwise_map.mpr (table.ascending.imp Int.ne_of_lt)
  have hcount := List.count_eq_one_of_mem hnodup (List.mem_map_of_mem hmem)
  rwa [List.count, List.countP_map] at hcount

/-- As many rows of each table go with the user on both sides. -/
theorem Mirrors.destroy_account_counts (hmirrors : Mirrors translation user source copy) :
    (source.destroyAccount translation.userId).2 = (copy.destroyAccount user.id).2 := by
  have hcopy : user ∈ copy.users.entries := by
    rw [hmirrors.copy_users]
    exact List.mem_singleton_self user
  have howns : ∀ {podcastId}, copy.podcasts.Has podcastId →
      source.ownsPodcast translation.userId (translation.podcasts podcastId) =
        copy.ownsPodcast user.id podcastId := by
    intro podcastId hhas
    rw [hmirrors.owns_podcast hhas]
    obtain ⟨podcast, hmem, rfl⟩ := hhas
    exact (owns_podcast_iff.mpr ⟨podcast, hmem, rfl, hmirrors.podcast_owner hmem⟩).symm
  -- Of each table the source loses as many rows as the copy.
  have hdevices : source.devices.entries.countP
        (fun device => device.row.userId == translation.userId) =
      copy.devices.entries.countP fun device => device.row.userId == user.id := by
    refine hmirrors.devices.count_eq (fun _ _ => id) fun device hmem => ?_
    rw [hmirrors.device_owner hmem]
    simp [Translation.deviceRow]
  have hpodcasts : source.podcasts.entries.countP
        (fun podcast => podcast.row.userId == translation.userId) =
      copy.podcasts.entries.countP fun podcast => podcast.row.userId == user.id := by
    refine hmirrors.podcasts.count_eq (fun _ _ => id) fun podcast hmem => ?_
    rw [hmirrors.podcast_owner hmem]
    simp [Translation.podcastRow]
  have hepisodes : source.episodes.entries.countP
        (fun episode => source.ownsPodcast translation.userId episode.row.podcastId) =
      copy.episodes.entries.countP fun episode =>
        copy.ownsPodcast user.id episode.row.podcastId :=
    hmirrors.episodes.count_eq (fun _ _ => id) fun episode hmem =>
      howns (hmirrors.copy_consistent.episodes_placed episode hmem)
  have hactions : source.actions.entries.countP
        (fun action => source.ownsPodcast translation.userId action.row.podcastId) =
      copy.actions.entries.countP fun action =>
        copy.ownsPodcast user.id action.row.podcastId := by
    refine hmirrors.actions.count_eq (fun _ _ => id) fun action hmem => ?_
    obtain ⟨_, _, hplaces⟩ := hmirrors.copy_consistent.actions_placed action hmem
    exact howns hplaces.podcast.has
  have hsettings : source.settings.entries.countP
        (fun setting => setting.row.userId == translation.userId) =
      copy.settings.entries.countP fun setting => setting.row.userId == user.id := by
    refine hmirrors.settings.count_eq (fun _ _ => id) fun setting hmem => ?_
    rw [hmirrors.setting_owner hmem]
    simp [Translation.settingRow]
  have husers : source.users.entries.countP (fun other => other.id == translation.userId) =
      copy.users.entries.countP fun other => other.id == user.id :=
    (count_id_eq_one hmirrors.source_user).trans (count_id_eq_one hcopy).symm
  exact (DestroyedUser.mk.injEq ..).mpr
    ⟨hdevices, hactions, hepisodes, hpodcasts, hsettings, husers⟩

/-- Without the user the store has no user of that name. -/
theorem find_user_without_user (hconsistent : source.Consistent) {gone : Entry User}
    (hmem : gone ∈ source.users.entries) :
    (source.withoutUser gone.id).findUser? gone.row.name = none := by
  refine Table.find_eq_none_iff.mpr fun other hother => ?_
  obtain ⟨hold, hid⟩ := Table.mem_remove.mp hother
  refine beq_eq_false_iff_ne.mpr fun hname => ?_
  obtain rfl := hconsistent.users_unique.eq hold hmem hname
  simp at hid

/-- An account ends on both sides or on none. -/
theorem Beside.destroy_user (hbeside : Beside name source copy) :
    Agree (fun first second => Beside name first.1 second.1 ∧ first.2 = second.2)
      (source.destroyUser name) (copy.destroyUser name) := by
  obtain ⟨translation, user, hname, hloads⟩ := hbeside.loads
  subst hname
  unfold destroyUser
  refine hloads.bind fun hmirrors => ⟨?_, hmirrors.destroy_account_counts⟩
  have hsource := hmirrors.source_consistent
  have hcopy := hmirrors.copy_consistent
  rw [destroy_account_eq hsource, destroy_account_eq hcopy]
  refine .absent (hsource.without_user _) (hcopy.without_user _)
    (find_user_without_user hsource hmirrors.source_user) ?_
  show copy.users.entries.filter _ = []
  rw [hmirrors.copy_users]
  simp

/-! ## Steps -/

/-- A request of the user is answered on both sides in the same way. -/
theorem Beside.answer (hbeside : Beside name source copy) (request : Request) :
    Agree (BesideShown name) (source.answer name request) (copy.answer name request) := by
  by_cases haccount : request.OfAccount
  · cases request with
    | createUser password workFactor =>
        refine (hbeside.create_user password workFactor).map fun first second hcreated => ?_
        obtain ⟨hafter, hrow⟩ := hcreated
        refine ⟨hafter, ?_⟩
        simp only [SameShown, Answer.shown, User.shown, hrow]
    | destroyUser =>
        refine hbeside.destroy_user.map fun first second hdestroyed => ?_
        obtain ⟨hafter, hcounts⟩ := hdestroyed
        refine ⟨hafter, ?_⟩
        simp only [SameShown, Answer.shown, hcounts]
    | _ => exact haccount.elim
  · obtain ⟨translation, user, hname, hloads⟩ := hbeside.loads
    refine (hloads.answer haccount).mono fun first second hboth => ?_
    exact ⟨.present hname hboth.1, hboth.2⟩

/-- What a step answers, as far as it shows. -/
def shownAnswer (answer : Except Failure Answer) : Except Failure Answer :=
  answer.map Answer.shown

/-- Answers that show the same are the same as far as they show. -/
theorem shown_answer_eq {first second : Except Failure Answer}
    (hagree : Agree SameShown first second) : shownAnswer first = shownAnswer second := by
  cases first <;> cases second
  · exact congrArg Except.error hagree
  · exact hagree.elim
  · exact hagree.elim
  · exact congrArg Except.ok hagree

/-- Two stores that stand in a relation do so after a step with agreeing answers that keep it. -/
theorem agree_step {keeps : Store → Store → Prop} {related : Answer → Answer → Prop}
    {request : Request} (hkept : keeps source copy)
    (hagree : Agree (fun first second => keeps first.1 second.1 ∧ related first.2 second.2)
      (source.answer name request) (copy.answer name request)) :
    keeps (source.step name request).1 (copy.step name request).1 ∧
      Agree related (source.step name request).2 (copy.step name request).2 := by
  unfold Store.step
  revert hagree
  cases source.answer name request with
  | error failure =>
      cases copy.answer name request with
      | error other => exact fun hsame => ⟨hkept, hsame⟩
      | ok outcome => exact False.elim
  | ok outcome =>
      cases copy.answer name request with
      | error other => exact False.elim
      | ok other => exact id

/-- A step of the user keeps the stores beside each other, with the same answer on both sides. -/
theorem Beside.step (hbeside : Beside name source copy) (request : Request) :
    Beside name (source.step name request).1 (copy.step name request).1 ∧
      shownAnswer (source.step name request).2 = shownAnswer (copy.step name request).2 := by
  obtain ⟨hafter, hshown⟩ := agree_step hbeside (hbeside.answer request)
  exact ⟨hafter, shown_answer_eq hshown⟩

/-- A name that is free stays so while others make requests. -/
theorem Effect.find_user_none (hconsistent : source.Consistent)
    (hfree : source.findUser? name = none) {other : String} (hother : other ≠ name)
    {request : Request} (heffect : source.Effect other request next) :
    next.findUser? name = none := by
  cases heffect with
  | create hname =>
      refine Table.find_eq_none_iff.mpr fun user hmem => ?_
      rcases Table.mem_insert.mp hmem with hold | rfl
      · exact Table.find_eq_none_iff.mp hfree user hold
      · rw [hname]
        exact beq_eq_false_iff_ne.mpr hother
  | destroy huser =>
      rw [destroy_account_eq hconsistent]
      refine Table.find_eq_none_iff.mpr fun user hmem => ?_
      exact Table.find_eq_none_iff.mp hfree user (Table.mem_remove.mp hmem).1
  | nothing => exact hfree
  | writes huser hwrites =>
      unfold findUser?
      rw [hwrites.users_eq]
      exact hfree

/-- A step of another user keeps the stores beside each other. -/
theorem Beside.others (hbeside : Beside name source copy) {other : String} (hother : other ≠ name)
    (request : Request) : Beside name (source.step other request).1 copy := by
  have heffect := source.step_effect other request
  have hconsistent := hbeside.source_consistent.step other request
  cases hbeside with
  | present hname hmirrors =>
      subst hname
      have hsame : SameFor _ source _ :=
        .effect hmirrors.source_consistent hmirrors.source_user hother heffect
      obtain ⟨moved, hmoved⟩ := hmirrors.of_same_for hsame hconsistent
      exact .present rfl hmoved
  | absent hsource hcopy hfree hempty =>
      exact .absent hconsistent hcopy (heffect.find_user_none hsource hfree hother) hempty

/-! ## Runs -/

/-- The answers to the steps of a user, as far as they show. -/
def answersTo (name : String) (session : List (String × Request))
    (answers : List (Except Failure Answer)) : List (Except Failure Answer) :=
  ((session.zip answers).filter fun step => step.1.1 == name).map fun step => shownAnswer step.2

/-- The steps of a user in a session. -/
def stepsOf (name : String) (session : List (String × Request)) : List (String × Request) :=
  session.filter fun step => step.1 == name

/-- A session is answered step by step. -/
theorem answers_run_cons (store : Store) (userName : String) (request : Request)
    (rest : List (String × Request)) :
    (store.run ((userName, request) :: rest)).2 =
      (store.step userName request).2 :: ((store.step userName request).1.run rest).2 := rfl

/-- The first answer is to the user who made the first request. -/
theorem answers_to_cons (name userName : String) (request : Request)
    (rest : List (String × Request)) (answer : Except Failure Answer)
    (answers : List (Except Failure Answer)) :
    answersTo name ((userName, request) :: rest) (answer :: answers) =
      if userName = name then shownAnswer answer :: answersTo name rest answers
      else answersTo name rest answers := by
  unfold answersTo
  rw [List.zip_cons_cons, List.filter_cons]
  split
  · next hmine => rw [if_pos (beq_iff_eq.mp hmine), List.map_cons]
  · next hother => rw [if_neg fun hmine => hother (beq_iff_eq.mpr hmine)]

/-- The answers to a user are those of the user's own steps. -/
theorem Beside.run (hbeside : Beside name source copy) (session : List (String × Request)) :
    answersTo name session (source.run session).2 =
      (copy.run (stepsOf name session)).2.map shownAnswer := by
  induction session generalizing source copy with
  | nil => rfl
  | cons first rest ih =>
      obtain ⟨userName, request⟩ := first
      rw [answers_run_cons, answers_to_cons]
      unfold stepsOf
      by_cases hmine : userName = name
      · subst hmine
        obtain ⟨hafter, hshown⟩ := hbeside.step request
        rw [if_pos rfl, List.filter_cons_of_pos (by simp), answers_run_cons, List.map_cons, hshown,
          ih hafter]
        rfl
      · rw [if_neg hmine, List.filter_cons_of_neg (by simpa using hmine),
          ih (hbeside.others hmine request)]
        rfl

/-- Users do not interfere: in every session the answers to the steps of a user are those of a
session of these steps alone. -/
theorem users_do_not_interfere (session : List (String × Request)) (name : String) :
    answersTo name session (Store.empty.run session).2 =
      (Store.empty.run (stepsOf name session)).2.map shownAnswer :=
  (Beside.absent consistent_empty consistent_empty rfl rfl).run session

end PodcastLedger.Store
