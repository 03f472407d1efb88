import PodcastLedger.Proofs.Ledger.Evolution
import PodcastLedger.Proofs.Sync.Transitions

/-!
# Accounting

The stored subscriptions are accounted for by the answers that were given. All that the answers of a
session tell a user of an address, since the account was created, is where the address stands in the
end (`Store.Accounted`). `Store.Accounted.step` shows that each request keeps this so, failed or not
and whoever makes it, and `Store.podcasts_stand_as_told` draws the consequence for the changes that
a device asks for.
-/

namespace PodcastLedger

/-- The addresses that an upload subscribes to. -/
def Request.wanted : Request → Set String
  | .replaceSubscriptions _ _ urls => requested urls
  | .changeSubscriptions _ _ add _ => requested add
  | _ => ∅

/-- What a user was told of an address, after one more request of a session was answered. A new
account begins anew. -/
def recordAnswer (name url : String) (history : List Transition)
    (answered : (String × Request) × Except Failure Answer) : List Transition :=
  match answered with
  | ((userName, request), .ok answer) =>
    if userName = name then
      match request with
      | .createUser _ _ => []
      | _ => history ++ answer.tells url
    else history
  | (_, .error _) => history

/-- All that the answered requests of a session told a user of an address since the account was
created last. -/
def transitions (name url : String)
    (answered : List ((String × Request) × Except Failure Answer)) : List Transition :=
  answered.foldl (recordAnswer name url) []

/-- The steps since an account was created, after one more request of a session was answered. -/
def recordStep (name : String) (steps : List (String × Request))
    (answered : (String × Request) × Except Failure Answer) : List (String × Request) :=
  match answered with
  | ((userName, .createUser _ _), .ok _) => if userName = name then [] else steps ++ [answered.1]
  | (step, _) => steps ++ [step]

/-- The steps of a session since the account of a user was created last. -/
def sinceCreation (name : String)
    (answered : List ((String × Request) × Except Failure Answer)) : List (String × Request) :=
  answered.foldl (recordStep name) []

namespace Store

variable {store next : Store} {userId writerId : Int} {name url : String} {time : Instant}
  {history : List Transition} {steps : List (String × Request)}

/-! ## Accounts -/

/-- What a user was told of an address alternates, and is where the address stands for the user. -/
structure Accounted (store : Store) (name url : String) (history : List Transition) : Prop where
  alternates : Alternate history
  stands : ∀ user ∈ store.users.entries, user.row.name = name →
    StandsAt history (store.standing? user.id url)

/-- A new podcast leaves every standing, but for that of its address if there was none. -/
theorem standing_insert_fresh {added : String} :
    standing? { store with podcasts := store.podcasts.insert (.fresh writerId added) } userId url =
      (store.standing? userId url).or
        (if writerId = userId ∧ added = url then some (false, .epoch) else none) := by
  unfold standing? findPodcast?
  dsimp only
  rw [Table.find_insert, Option.map_or]
  congr 1
  by_cases hsame : writerId = userId ∧ added = url <;> simp [Podcast.fresh, hsame]

/-- A write leaves an address where the history says, if it turns no podcast of the user. -/
theorem Write.stands {time? : Option Instant} (hwrite : store.Write writerId time? next)
    (hstands : StandsAt history (store.standing? userId url))
    (hquiet : writerId = userId → time? = none) :
    StandsAt history (next.standing? userId url) := by
  cases hwrite with
  | insertPodcast =>
      rw [standing_insert_fresh]
      cases hbefore : store.standing? userId url with
      | some standing =>
          rw [hbefore] at hstands
          exact hstands
      | none =>
          rw [hbefore] at hstands
          rw [Option.none_or]
          split
          · exact hstands.fresh
          · exact hstands
  | @turn time htime selected subscribed =>
      have hother : userId ≠ writerId := by
        rintro rfl
        rw [hquiet rfl] at htime
        cases htime
      have hsame : (store.turned writerId selected subscribed time).standing? userId url =
        store.standing? userId url := standing_turned_of_other hother
      exact hsame ▸ hstands
  | insertDevice | describeDevice | insertEpisode | identifyEpisode | insertAction
  | insertSetting | changeSetting | removeSetting => exact hstands
  | endDevice => exact hstands

/-- Writes leave an address where the history says, if they turn no podcast of the user. -/
theorem Writes.stands {time? : Option Instant} (hwrites : Writes writerId time? store next)
    (hstands : StandsAt history (store.standing? userId url))
    (hquiet : writerId = userId → time? = none) :
    StandsAt history (next.standing? userId url) := by
  induction hwrites with
  | refl => exact hstands
  | tail _ hwrite ih => exact hwrite.stands ih hquiet

/-- A new account was told of nothing, and no address is in one of its rows. -/
theorem Consistent.accounted_created (hconsistent : store.Consistent) {password : String}
    {workFactor : Nat} {user : Entry User}
    (hcreate : store.createUser name password workFactor = .ok (next, user)) (url : String) :
    next.Accounted name url [] where
  alternates := List.isChain_singleton _
  stands := by
    obtain ⟨⟨_, _, hfree⟩, rfl⟩ := create_user_inserts hcreate
    intro created hmem hname
    rcases Table.mem_insert.mp hmem with hold | rfl
    · exact absurd hname (name_ne_of_find_user hfree created hold)
    · refine .inl (standing_eq_none_iff.mpr ?_)
      rintro ⟨podcast, hpodcast, howner, _⟩
      have hlt := Table.lt_next_of_has (hconsistent.podcasts_owned podcast hpodcast)
      exact absurd howner (Int.ne_of_lt hlt)

/-- A request that neither creates the account nor uploads subscriptions to it leaves it accounted
for. -/
theorem Accounted.of_effect (haccounted : store.Accounted name url history)
    (hconsistent : store.Consistent) {userName : String} {request : Request}
    (heffect : store.Effect userName request next)
    (hquiet : userName = name → request.time? = none ∧
      ∀ password workFactor, request ≠ .createUser password workFactor) :
    next.Accounted name url history := by
  refine ⟨haccounted.alternates, fun user hmem hname => ?_⟩
  cases heffect with
  | @create created password workFactor hcreated _ _ _ =>
      rcases Table.mem_insert.mp hmem with hold | rfl
      · exact haccounted.stands user hold hname
      · exact absurd rfl ((hquiet (hcreated.symm.trans hname)).2 password workFactor)
  | @destroy destroyed _ =>
      rw [destroy_account_eq hconsistent] at hmem ⊢
      obtain ⟨hold, hkept⟩ := Table.mem_remove.mp hmem
      have hsame : (store.withoutUser destroyed.id).findPodcast? user.id url =
          store.findPodcast? user.id url := by
        refine Table.find_remove fun podcast hpodcast => ?_
        rw [Bool.and_eq_true, beq_iff_eq] at hpodcast
        rw [hpodcast.1]
        exact hkept
      unfold standing?
      rw [hsame]
      exact haccounted.stands user hold hname
  | nothing => exact haccounted.stands user hmem hname
  | @writes writer _ _ hfind hwrites =>
      obtain ⟨hwriter, hwriterName⟩ := mem_of_find_user hfind
      rw [hwrites.users_eq] at hmem
      refine hwrites.stands (haccounted.stands user hmem hname) fun hid => ?_
      obtain rfl := store.users.eq_of_id_eq hwriter hmem hid
      exact (hquiet (hwriterName.symm.trans hname)).1

/-- A user who is loaded is found in the table, and is loaded by the name of the row. -/
theorem mem_of_load_user {user : Entry User} (hload : store.loadUser name = .ok user) :
    user ∈ store.users.entries ∧ user.row.name = name :=
  mem_of_find_user (load_user_ok hload).2.2

/-- A request that succeeds and has a time is an upload of subscriptions. -/
theorem upload_of_answer {request : Request} {answer : Answer}
    (hanswer : store.answer name request = .ok (next, answer))
    (htime : request.time? = some time) :
    ∃ user device urls ended rewrites, user ∈ store.users.entries ∧ user.row.name = name ∧
      IsName device ∧ (∀ url, urls.contains url = true → ended url = false) ∧
      request.wanted = {url | url ∈ urls} ∧
      next = store.uploaded user.id device urls ended time ∧
      answer = .subscriptionUpdate (store.uploadUpdate user.id device urls ended time rewrites) := by
  cases request with
  | replaceSubscriptions device timestamp raws =>
      cases htime
      obtain ⟨update, hreplace, rfl⟩ := write_ok hanswer
      have hparts := hreplace
      simp only [replaceSubscriptions, bind_eq_ok_iff] at hparts
      obtain ⟨_, _, user, hload, _⟩ := hparts
      obtain ⟨hmem, rfl⟩ := mem_of_load_user hload
      obtain ⟨⟨hname, _⟩, _, rfl, rfl⟩ := (replace_subscriptions_iff hload).mp hreplace
      exact ⟨user, device, _, _, _, hmem, rfl, hname, fun _ => withdraws_of_requested,
        requested_eq raws, rfl, rfl⟩
  | changeSubscriptions device timestamp add remove =>
      cases htime
      obtain ⟨update, hchange, rfl⟩ := write_ok hanswer
      have hparts := hchange
      simp only [changeSubscriptions, bind_eq_ok_iff] at hparts
      obtain ⟨_, _, hparts⟩ := hparts
      split at hparts
      · cases hparts
      · obtain ⟨user, hload, _⟩ := bind_eq_ok_iff.mp hparts
        obtain ⟨hmem, rfl⟩ := mem_of_load_user hload
        obtain ⟨⟨hname, _⟩, hdisjoint, _, rfl, rfl⟩ := (change_subscriptions_iff hload).mp hchange
        exact ⟨user, device, _, _, _, hmem, rfl, hname, disjoint_iff.mp hdisjoint,
          requested_eq add, rfl, rfl⟩
  | createUser | loadUser | destroyUser | registerDevice | updateDevice | findDevice | listDevices
  | destroyDevice | subscriptionChanges | subscriptions | findPodcast | addActions | listActions
  | lastAction | favorites | resolveKey | getSettings | saveSettings => cases htime

/-- A request that has no time tells nothing of any address. -/
theorem tells_of_no_time {request : Request} {answer : Answer}
    (hanswer : store.answer name request = .ok (next, answer)) (htime : request.time? = none)
    (url : String) : answer.tells url = [] := by
  cases request with
  | replaceSubscriptions | changeSubscriptions => cases htime
  | createUser | destroyUser | registerDevice | updateDevice | destroyDevice | addActions
  | saveSettings =>
      obtain ⟨_, _, rfl⟩ := write_ok hanswer
      rfl
  | loadUser | findDevice | listDevices | subscriptionChanges | subscriptions | findPodcast
  | listActions | lastAction | favorites | resolveKey | getSettings =>
      obtain ⟨_, _, _, rfl⟩ := read_ok hanswer
      rfl

/-- After an upload of the user the account is accounted for with what the answer tells. -/
theorem Accounted.upload (haccounted : store.Accounted name url history)
    (hconsistent : store.Consistent) {request : Request} {answer : Answer}
    (hanswer : store.answer name request = .ok (next, answer))
    (htime : request.time? = some time) :
    next.Accounted name url (history ++ answer.tells url) := by
  obtain ⟨user, device, urls, ended, rewrites, hmem, hname, hdevice, hdisjoint, _, rfl, rfl⟩ :=
    upload_of_answer hanswer htime
  let after := (store.uploaded user.id device urls ended time).standing? user.id url
  let told := (store.uploadUpdate user.id device urls ended time rewrites).tells url
  have hstands := haccounted.stands user hmem hname
  have hnow : Alternate (history ++ told) ∧ StandsAt (history ++ told) after := by
    rcases hconsistent.upload_tells (Table.has_of_mem hmem) hdevice hdisjoint time url rewrites with
      ⟨hafter, htold⟩ | ⟨side, hside, hafter, htold⟩
    · rw [show told = [] from htold, show after = _ from hafter, List.append_nil]
      exact ⟨haccounted.alternates, hstands⟩
    · rw [show told = [(side, time)] from htold, show after = some (side, time.stored) from hafter]
      exact hstands.turn haccounted.alternates hside time
  refine ⟨hnow.1, fun other hother hsame => ?_⟩
  rw [users_uploaded] at hother
  obtain rfl := hconsistent.users_unique.eq hother hmem (hsame.trans hname.symm)
  exact hnow.2

/-! ## Steps and runs -/

/-- A step keeps accounts accounted for, with what its answer tells. -/
theorem Accounted.step (haccounted : store.Accounted name url history)
    (hconsistent : store.Consistent) (userName : String) (request : Request) :
    (store.step userName request).1.Accounted name url
      (recordAnswer name url history ((userName, request), (store.step userName request).2)) := by
  cases hanswer : store.answer userName request with
  | error failure =>
      rw [step_of_error hanswer]
      exact haccounted
  | ok outcome =>
      obtain ⟨next, answer⟩ := outcome
      rw [step_of_answer hanswer]
      have heffect := answer_effect hanswer
      unfold recordAnswer
      dsimp only
      split
      · next hname =>
          subst hname
          split
          · obtain ⟨_, hcreate, _⟩ := write_ok hanswer
            exact hconsistent.accounted_created hcreate url
          · next hother =>
              cases htime : request.time? with
              | some time => exact haccounted.upload hconsistent hanswer htime
              | none =>
                  rw [tells_of_no_time hanswer htime, List.append_nil]
                  exact haccounted.of_effect hconsistent heffect fun _ => ⟨htime, hother⟩
      · next hother =>
          exact haccounted.of_effect hconsistent heffect fun hname => absurd hname hother

/-- A session keeps accounts accounted for, with what its answers tell. -/
theorem Accounted.run (haccounted : store.Accounted name url history)
    (hconsistent : store.Consistent) (session : List (String × Request)) :
    (store.run session).1.Accounted name url
      ((session.zip (store.run session).2).foldl (recordAnswer name url) history) := by
  induction session generalizing store history with
  | nil => exact haccounted
  | cons first rest ih =>
      obtain ⟨userName, request⟩ := first
      exact ih (haccounted.step hconsistent userName request) (hconsistent.step userName request)

/-- The store without rows is accounted for by nothing told. -/
theorem accounted_empty (name url : String) : Store.empty.Accounted name url [] :=
  ⟨List.isChain_singleton _, List.forall_mem_nil _⟩

/-! ## Addresses that were never wanted -/

/-- An address that an answer tells a subscription to is one of those reported as subscribed to. -/
theorem mem_addresses_of_tells {update : SubscriptionUpdate}
    (htold : (true, time) ∈ update.tells url) : url ∈ addresses update.subscribed := by
  rcases List.mem_append.mp htold with hon | hoff
  · obtain ⟨podcast, hpodcast, _⟩ := List.mem_map.mp hon
    obtain ⟨hmem, hurl⟩ := List.mem_filter.mp hpodcast
    exact ⟨podcast, hmem, beq_iff_eq.mp hurl⟩
  · obtain ⟨_, _, hother⟩ := List.mem_map.mp hoff
    cases hother

/-- A user is told of a subscription only if an upload of the user wants it. -/
theorem Consistent.wanted_of_step (hconsistent : store.Consistent) {userName : String}
    {request : Request} (htold : (true, time) ∈
      recordAnswer name url history ((userName, request), (store.step userName request).2)) :
    (true, time) ∈ history ∨ userName = name ∧ url ∈ request.wanted := by
  cases hanswer : store.answer userName request with
  | error failure =>
      rw [step_of_error hanswer] at htold
      exact .inl htold
  | ok outcome =>
      obtain ⟨next, answer⟩ := outcome
      rw [step_of_answer hanswer] at htold
      unfold recordAnswer at htold
      dsimp only at htold
      split at htold
      · next hname =>
          split at htold
          · cases htold
          · refine (List.mem_append.mp htold).imp_right fun hnew => ⟨hname, ?_⟩
            cases htime : request.time? with
            | none =>
                rw [tells_of_no_time hanswer htime] at hnew
                cases hnew
            | some uploaded =>
                obtain ⟨user, device, urls, ended, rewrites, hmem, _, hdevice, _, hwanted, _, rfl⟩ :=
                  upload_of_answer hanswer htime
                have haddress := mem_addresses_of_tells hnew
                rw [hconsistent.addresses_subscribed (Table.has_of_mem hmem) hdevice,
                  ← hwanted] at haddress
                exact haddress.1
      · exact .inl htold

/-- A step is one more since the account was created, unless it creates the account. -/
theorem record_step_eq (answered : (String × Request) × Except Failure Answer) :
    (recordStep name steps answered = [] ∧ recordAnswer name url history answered = []) ∨
      recordStep name steps answered = steps ++ [answered.1] := by
  unfold recordStep
  split
  · split
    · next hname => exact .inl ⟨rfl, if_pos hname⟩
    · exact .inr rfl
  · exact .inr rfl

/-- If a user is told of a subscription, an upload of the user in one of the steps wants it. -/
def Wanted (name url : String) (history : List Transition) (steps : List (String × Request)) :
    Prop :=
  ∀ time, (true, time) ∈ history → ∃ step ∈ steps, step.1 = name ∧ url ∈ step.2.wanted

/-- What a user is told of is still wanted by the steps since the account was created after one more
step. -/
theorem Wanted.step (hwanted : Wanted name url history steps) (hconsistent : store.Consistent)
    (userName : String) (request : Request) :
    let answered := ((userName, request), (store.step userName request).2)
    Wanted name url (recordAnswer name url history answered) (recordStep name steps answered) := by
  intro answered time htold
  rcases record_step_eq answered with ⟨_, hnothing⟩ | hsteps
  · rw [hnothing] at htold
    cases htold
  · rw [hsteps]
    rcases hconsistent.wanted_of_step htold with hbefore | hnow
    · obtain ⟨step, hmem, hstep⟩ := hwanted time hbefore
      exact ⟨step, List.mem_append_left _ hmem, hstep⟩
    · exact ⟨(userName, request), List.mem_append_right _ List.mem_cons_self, hnow⟩

/-- In a session a user is told of a subscription only if, since the account was created, an upload of
the user wants it. -/
theorem Wanted.run (hwanted : Wanted name url history steps) (hconsistent : store.Consistent)
    (session : List (String × Request)) :
    Wanted name url ((session.zip (store.run session).2).foldl (recordAnswer name url) history)
      ((session.zip (store.run session).2).foldl (recordStep name) steps) := by
  induction session generalizing store history steps with
  | nil => exact hwanted
  | cons first rest ih =>
      obtain ⟨userName, request⟩ := first
      exact ih (hwanted.step hconsistent userName request) (hconsistent.step userName request)

/-- The answer to a step tells of an address once at most. -/
theorem Consistent.tells_once_step (hconsistent : store.Consistent) {request : Request}
    {answer : Answer} (hanswer : (store.step name request).2 = .ok answer) (url : String) :
    (answer.tells url).length ≤ 1 := by
  cases houtcome : store.answer name request with
  | error failure =>
      rw [step_of_error houtcome] at hanswer
      cases hanswer
  | ok outcome =>
      obtain ⟨next, given⟩ := outcome
      rw [step_of_answer houtcome] at hanswer
      cases hanswer
      cases htime : request.time? with
      | none =>
          rw [tells_of_no_time houtcome htime]
          exact Nat.zero_le 1
      | some time =>
          obtain ⟨user, device, urls, ended, rewrites, hmem, _, hdevice, hdisjoint, _, _, rfl⟩ :=
            upload_of_answer houtcome htime
          unfold Answer.tells
          rcases hconsistent.upload_tells (Table.has_of_mem hmem) hdevice hdisjoint time url
            rewrites with ⟨_, htold⟩ | ⟨_, _, _, htold⟩ <;> simp [htold]

/-- Every answer of a session tells of an address once at most. -/
theorem Consistent.tells_once (hconsistent : store.Consistent)
    {session : List (String × Request)} {answer : Answer}
    (hanswer : .ok answer ∈ (store.run session).2) (url : String) :
    (answer.tells url).length ≤ 1 := by
  induction session generalizing store with
  | nil => cases hanswer
  | cons first rest ih =>
      obtain ⟨userName, request⟩ := first
      rcases List.mem_cons.mp hanswer with hfirst | hrest
      · exact hconsistent.tells_once_step hfirst.symm url
      · exact ih (hconsistent.step userName request) hrest

/-! ## Changes -/

/-- The last transition is to the side, later than a time as the store keeps both times. -/
def turnedAfter (since : Instant) (side : Bool) (history : List Transition) : Bool :=
  history.getLast?.any fun last => last.1 == side && decide (since.stored < last.2.stored)

/-- Where a podcast stands shows whether it was turned to a side after a time, unless the time is
before the epoch. -/
theorem turned_after_eq {since : Instant} (hsince : .epoch ≤ since) {side turned : Bool}
    (hstands : StandsAt history (some (turned, time))) :
    turnedAfter since side history = (turned == side && decide (since.stored < time)) := by
  have hbound : ¬ since.stored < .epoch := by
    have hle : Instant.epoch.stored ≤ since.stored := Instant.stored_mono (by decide) hsince
    exact Int.not_lt.mpr hle
  unfold turnedAfter
  unfold StandsAt at hstands
  cases hlast : history.getLast? with
  | none =>
      rw [hlast] at hstands
      rcases hstands with hnone | hfresh
      · cases hnone
      · cases hfresh
        simp [hbound]
  | some last =>
      rw [hlast] at hstands
      cases hstands
      rfl

/-- The changes that a known device of a user asks for are the podcasts that were turned after the
time, each on the side to which it was turned last. -/
theorem Consistent.changes_of_accounted (hconsistent : store.Consistent) {user : Entry User}
    (hmem : user ∈ store.users.entries) {histories : String → List Transition}
    (haccounted : ∀ url, store.Accounted user.row.name url (histories url)) {device : String}
    (hdevice : (store.findDevice? user.id device).isSome) {since : Instant}
    (hsince : .epoch ≤ since) :
    let turnedTo := fun side => store.podcasts.entries.filter fun podcast =>
      podcast.row.userId == user.id && turnedAfter since side (histories podcast.row.url)
    store.subscriptionChanges user.row.name device (some since) =
      .ok ⟨turnedTo true, turnedTo false⟩ := by
  intro turnedTo
  obtain ⟨found, hfound⟩ := Option.isSome_iff_exists.mp hdevice
  have hbound : ∀ bound ∈ some since, bound.IsStorable := by
    rintro bound ⟨⟩
    refine Instant.storable_of_le (Int.le_trans ?_ hsince)
    decide
  have hturned : ∀ side, ∀ podcast ∈ store.podcasts.entries, podcast.row.userId = user.id →
      turnedAfter since side (histories podcast.row.url) =
        (podcast.row.subscribed == side && decide (since.stored < podcast.row.updatedAt)) := by
    intro side podcast hpodcast howner
    refine turned_after_eq hsince ?_
    have hstands := (haccounted podcast.row.url).stands user hmem rfl
    unfold standing? at hstands
    rwa [hconsistent.find_podcast_iff.mpr ⟨hpodcast, howner, rfl⟩] at hstands
  unfold subscriptionChanges requireBound
  rw [hconsistent.load_user hmem]
  simp only [bind, Except.bind, hconsistent.load_device hfound, require_of hbound,
    List.partition_eq_filter_filter]
  have hside : ∀ side, turnedTo side = store.podcasts.entries.filter fun podcast =>
      podcast.row.subscribed == side &&
        (podcast.row.userId == user.id && isAfter (some since) podcast.row.updatedAt) := by
    intro side
    refine List.filter_congr fun podcast hpodcast => ?_
    by_cases howner : podcast.row.userId = user.id
    · simp [hturned side podcast hpodcast howner, howner, isAfter]
    · rw [beq_eq_false_iff_ne.mpr howner, Bool.false_and, Bool.false_and, Bool.and_false]
  rw [hside, hside, List.filter_filter, List.filter_filter]
  simp

/-- Podcasts stand as told. In any session each answer tells of an address once at most, and all of
them together tell each user, of each address and since the account was created, of transitions that
alternate and begin with a subscription; of none for an address that no upload of the user has wanted
since then. The address stands where the last of them left it, as of the time of that upload. So a
known device that asks for the changes since a time, not before the epoch, gets the podcasts that were
turned after it, each on the side to which it was turned last. -/
theorem podcasts_stand_as_told (session : List (String × Request)) :
    let last := (Store.empty.run session).1
    let answers := (Store.empty.run session).2
    let told := fun name url => transitions name url (session.zip answers)
    (∀ answer, .ok answer ∈ answers → ∀ url, (answer.tells url).length ≤ 1) ∧
    (∀ name url, Alternate (told name url) ∧
      ((∀ step ∈ sinceCreation name (session.zip answers),
        step.1 = name → url ∉ step.2.wanted) → told name url = [])) ∧
    ∀ user ∈ last.users.entries,
      (∀ url, StandsAt (told user.row.name url) (last.standing? user.id url)) ∧
      ∀ device, (last.findDevice? user.id device).isSome → ∀ since, .epoch ≤ since →
        let turnedTo := fun side => last.podcasts.entries.filter fun podcast =>
          podcast.row.userId == user.id &&
            turnedAfter since side (told user.row.name podcast.row.url)
        last.subscriptionChanges user.row.name device (some since) =
          .ok ⟨turnedTo true, turnedTo false⟩ := by
  intro last answers told
  have haccounted : ∀ name url, last.Accounted name url (told name url) := fun name url =>
    (accounted_empty name url).run consistent_empty session
  refine ⟨fun answer hanswer => consistent_empty.tells_once hanswer, fun name url => ?_,
    fun user hmem => ⟨fun url => (haccounted user.row.name url).stands user hmem rfl,
      fun device hdevice since hsince => ?_⟩⟩
  · refine ⟨(haccounted name url).alternates, fun hunwanted => ?_⟩
    refine (haccounted name url).alternates.eq_nil fun time htold => ?_
    have hnothing : Wanted name url [] [] := fun time hmem => nomatch hmem
    obtain ⟨step, hstep, hname, hwanted⟩ := hnothing.run consistent_empty session time htold
    exact hunwanted step hstep hname hwanted
  · exact (Reachable.empty.run session).consistent.changes_of_accounted hmem
      (haccounted user.row.name) hdevice hsince

/-- A subscription is exchanged for another one in an upload that claims an earlier time, and a third
podcast is only listened to. -/
def exchangedEarlier : List (String × Request) :=
  [("ann", .createUser "long enough" 10),
    ("ann", .replaceSubscriptions "phone" (.ofUnix 2000) ["http://a.example/feed"]),
    ("ann", .changeSubscriptions "phone" (.ofUnix 1000) ["http://b.example/feed"]
      ["http://a.example/feed"]),
    ("ann", .addActions [⟨"download", none, "http://c.example/1", none, "http://c.example/feed",
      none, none, .ofUnix 3000, none⟩])]

/-- The first podcast stands where the later upload left it, as of the earlier time. The third one is
never told. -/
theorem changes_after_exchange :
    let last := (Store.empty.run exchangedEarlier).1
    let answered := exchangedEarlier.zip (Store.empty.run exchangedEarlier).2
    let ended := [(true, .ofUnix 2000), (false, .ofUnix 1000)]
    transitions "ann" "http://a.example/feed" answered = ended ∧
      StandsAt ended (last.standing? 1 "http://a.example/feed") ∧
      last.podcasts.entries.map (fun podcast => podcast.row.url) =
        ["http://a.example/feed", "http://b.example/feed", "http://c.example/feed"] ∧
      last.subscriptionChanges "ann" "phone" (some (.ofUnix 500)) = .ok
        ⟨[⟨2, ⟨1, "http://b.example/feed", none, none, none, true, .ofUnix 1000⟩⟩],
          [⟨1, ⟨1, "http://a.example/feed", none, none, none, false, .ofUnix 1000⟩⟩]⟩ := by
  intro last answered ended
  have htold : transitions "ann" "http://a.example/feed" answered = ended := by decide +kernel
  have hmem : (⟨1, "ann", false, 10⟩ : Entry User) ∈ last.users.entries := by decide +kernel
  obtain ⟨_, _, hstand⟩ := podcasts_stand_as_told exchangedEarlier
  obtain ⟨hstands, hchanges⟩ := hstand _ hmem
  refine ⟨htold, htold ▸ hstands "http://a.example/feed", by decide +kernel, ?_⟩
  refine (hchanges "phone" (by decide +kernel) (.ofUnix 500) (by decide)).trans ?_
  decide +kernel

/-- A podcast is subscribed to in 1970, two microseconds after a second. -/
def uploadBetweenSeconds : List (String × Request) :=
  [("ann", .createUser "long enough" 10),
    ("ann", .replaceSubscriptions "phone" ⟨5, 2000, by decide⟩ ["http://a.example/feed"])]

/-- The bound is compared as the store keeps it, cut to whole microseconds toward the year 2000: a
time before the upload by a nanosecond is kept as the time of the upload, so the podcast is not told
as turned after it. -/
theorem changes_since_nanosecond_before :
    let last := (Store.empty.run uploadBetweenSeconds).1
    let answered := uploadBetweenSeconds.zip (Store.empty.run uploadBetweenSeconds).2
    let time : Instant := ⟨5, 2000, by decide⟩
    let since : Instant := ⟨5, 1999, by decide⟩
    .epoch ≤ since ∧ since < time.stored ∧
      transitions "ann" "http://a.example/feed" answered = [(true, time)] ∧
      (last.findDevice? 1 "phone").isSome ∧
      last.podcasts.entries = [⟨1, ⟨1, "http://a.example/feed", none, none, none, true, time⟩⟩] ∧
      last.subscriptionChanges "ann" "phone" (some since) = .ok ⟨[], []⟩ := by
  decide +kernel

end Store

end PodcastLedger
