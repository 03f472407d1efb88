import PodcastLedger.Proofs.Uploads.Change

/-!
# Whole lists and differences

An upload of a whole list and an upload of the difference to it are interchangeable:
`Store.replacement_as_change` compares the two outcomes, failures included. The list ends what it
does not have, the difference ends what it names, and among what is subscribed to these are the same
addresses (`Store.withdraws_iff_removed`).
-/

namespace PodcastLedger.Store

variable {store : Store} {userId : Int} {user : Entry User} {userName device : String}
  {timestamp : Instant} {raws add remove : List String}

/-- The addresses that the user of a name is subscribed to, which are none if there is no such
user. -/
def subscribedBy (store : Store) (userName : String) : Set String :=
  {url | ∃ user ∈ store.users.entries, user.row.name = userName ∧ url ∈ store.subscribed user.id}

/-- A user who is there is the one of the name. -/
theorem Consistent.subscribed_by_eq (hconsistent : store.Consistent)
    (hmem : user ∈ store.users.entries) :
    store.subscribedBy user.row.name = store.subscribed user.id := by
  refine Set.ext fun url => ⟨?_, fun hurl => ⟨user, hmem, rfl, hurl⟩⟩
  rintro ⟨other, hother, hname, hurl⟩
  rwa [hconsistent.users_unique.eq hother hmem hname] at hurl

/-- The outcomes lead to the same store and report the same podcasts as of the same time, ended
subscriptions in any order. -/
def SameTransitions (first second : Store × SubscriptionUpdate) : Prop :=
  first.1 = second.1 ∧ first.2.subscribed = second.2.subscribed ∧
    first.2.unsubscribed.Perm second.2.unsubscribed ∧ first.2.timestamp = second.2.timestamp

/-! ## Ended subscriptions -/

/-- To end subscriptions depends on the selection among what is subscribed to only. -/
theorem is_turned_off_congr {first second : String → Bool}
    (hsame : ∀ url ∈ store.subscribed userId, first url = second url) :
    ∀ podcast ∈ store.podcasts.entries,
      isTurned userId first false podcast = isTurned userId second false podcast := by
  intro podcast hmem
  rw [Bool.eq_iff_iff, is_turned_iff, is_turned_iff]
  refine and_congr_right fun howner => and_congr_left fun hside => ?_
  rw [hsame podcast.row.url ⟨podcast, hmem, howner, rfl, by simpa using hside⟩]

/-- What ends depends on the selection among what is subscribed to only. -/
theorem turned_off_congr {first second : String → Bool}
    (hsame : ∀ url ∈ store.subscribed userId, first url = second url) :
    store.turned userId first false timestamp = store.turned userId second false timestamp := by
  unfold turned
  rw [Table.modify_congr (is_turned_off_congr hsame)]

/-- What is reported as ended depends on the selection among what is subscribed to only. -/
theorem turned_rows_off_congr {first second : String → Bool}
    (hsame : ∀ url ∈ store.subscribed userId, first url = second url) :
    store.turnedRows userId first false timestamp =
      store.turnedRows userId second false timestamp := by
  unfold turnedRows
  rw [List.filter_congr (is_turned_off_congr hsame)]

/-- Lists that mean the same addresses have the same canonical forms. -/
theorem canonical_all_of_requested (hsame : requested add = requested raws) :
    Web.canonicalAll add = Web.canonicalAll raws := by
  rw [requested_eq, requested_eq] at hsame
  exact (Web.ascending_canonical_all add).eq_of_mem_iff (Web.ascending_canonical_all raws)
    (Set.ext_iff.mp hsame)

/-- Among the addresses of a list and what is subscribed to, the list ends what the difference to it
names. -/
theorem withdraws_iff_removed (hremove : requested remove = store.subscribed userId \ requested raws)
    {url : String} (hurl : url ∈ store.subscribed userId ∪ requested raws) :
    withdraws raws url = (Web.canonicalAll remove).contains url := by
  rw [Bool.eq_iff_iff, contains_iff_requested, hremove, withdraws, Bool.not_eq_true',
    ← Bool.not_eq_true, contains_iff_requested]
  exact ⟨fun hother => ⟨hurl.resolve_right hother, hother⟩, And.right⟩

/-- The list and the difference to it lead to the same store. -/
theorem uploaded_as_change (hremove : requested remove = store.subscribed userId \ requested raws) :
    store.uploaded userId device (Web.canonicalAll raws) (withdraws raws) timestamp =
      store.uploaded userId device (Web.canonicalAll raws) (Web.canonicalAll remove).contains
        timestamp := by
  refine turned_off_congr fun url hurl => withdraws_iff_removed hremove ?_
  rw [mem_subscribed_turned, subscribed_prepared] at hurl
  split at hurl
  · next hlisted => exact .inr (contains_iff_requested.mp hlisted)
  · exact .inl hurl

/-- The list and the difference to it report the same podcasts. -/
theorem upload_update_as_change
    (hremove : requested remove = store.subscribed userId \ requested raws)
    (rewrites : List Web.Rewrite) :
    store.uploadUpdate userId device (Web.canonicalAll raws) (withdraws raws) timestamp rewrites =
      store.uploadUpdate userId device (Web.canonicalAll raws) (Web.canonicalAll remove).contains
        timestamp rewrites := by
  unfold uploadUpdate
  rw [turned_rows_off_congr fun url hurl => withdraws_iff_removed hremove (.inl ?_)]
  rwa [subscribed_prepared] at hurl

/-- A whole list is an upload of its addresses that ends what the difference to it names. -/
theorem replace_as_change_iff (hload : store.loadUser user.row.name = .ok user)
    (hremove : requested remove = store.subscribed user.id \ requested raws) {next : Store}
    {update : SubscriptionUpdate} :
    store.replaceSubscriptions user.row.name device timestamp raws = .ok (next, update) ↔
      (IsName device ∧ store.users.Has user.id) ∧
        (timestamp.IsStorable ∨ update.subscribed = [] ∧ update.unsubscribed = []) ∧
        next = store.uploaded user.id device (Web.canonicalAll raws)
          (Web.canonicalAll remove).contains timestamp ∧
        update = store.uploadUpdate user.id device (Web.canonicalAll raws)
          (Web.canonicalAll remove).contains timestamp (Web.rewrites raws) := by
  rw [replace_subscriptions_iff hload, uploaded_as_change hremove, upload_update_as_change hremove,
    and_comm (a := update.unsubscribed = [])]

/-! ## Failures -/

/-- No common address is found in lists that have none. -/
theorem find_common_eq_none (hdisjoint : Disjoint (requested add) (requested remove)) :
    (Web.canonicalAll add).find? (Web.canonicalAll remove).contains = none :=
  List.find?_eq_none.mpr fun url hadd => by
    rw [disjoint_iff.mp hdisjoint url (List.contains_iff_mem.mpr hadd)]
    exact Bool.false_ne_true

/-- The store refuses to turn a podcast. -/
def IsRefusedTurn (failure : Failure) : Prop :=
  failure = .refused .updateSubscription

/-- Podcasts are turned, or the store refuses to. -/
theorem turn_podcasts_fails {selected : String → Bool} {subscribed : Bool} :
    FailsOnly IsRefusedTurn (store.turnPodcasts userId selected subscribed timestamp) := by
  rw [turn_podcasts_eq, reporting]
  split
  · exact fails_only_ok _
  · rintro _ ⟨⟩
    rfl

/-- The user that is loaded is there. -/
theorem has_of_load_user (hload : store.loadUser userName = .ok user) :
    store.users.Has user.id :=
  Table.has_of_mem (mem_of_find_user (load_user_ok hload).2.2).1

section Allowed

variable {allowed : Failure → Prop}

/-- A whole list fails for no more than the name of the device, the user and turns of podcasts do. -/
theorem replace_subscriptions_fails_only
    (hvalidate : FailsOnly allowed (validateName "device" device))
    (hload : FailsOnly allowed (store.loadUser userName))
    (hturn : ∀ (store : Store) (userId : Int) (selected : String → Bool) (subscribed : Bool),
      FailsOnly allowed (store.turnPodcasts userId selected subscribed timestamp)) :
    FailsOnly allowed (store.replaceSubscriptions userName device timestamp raws) := by
  refine hvalidate.bind fun _ hvalid => hload.bind fun user hfound => ?_
  have hname : IsName device := validateName_eq_ok_iff.mp hvalid
  have huser := has_of_load_user hfound
  obtain ⟨registration, hregister⟩ := register_device_iff.mpr ⟨⟨hname, huser⟩, rfl⟩
  dsimp only
  rw [hregister]
  refine (hturn _ _ _ _).bind ?_
  rintro ⟨ended, unsubscribed⟩ hend
  obtain ⟨_, rfl, _⟩ := turn_podcasts_iff.mp hend
  have hended : Table.Has ((store.withDevice user.id device).turned user.id
      (fun url => !(Web.canonicalAll raws).contains url) false timestamp).users user.id := by
    show (store.withDevice user.id device).users.Has user.id
    rwa [users_with_device]
  dsimp only
  rw [insert_canonical_all hended]
  exact (hturn _ _ _ _).bind fun _ _ => fails_only_ok _

/-- A difference fails for no more than the name of the device, a common address, the user and turns
of podcasts do. -/
theorem change_subscriptions_fails_only
    (hvalidate : FailsOnly allowed (validateName "device" device))
    (hcommon : ∀ url, (Web.canonicalAll add).find? (Web.canonicalAll remove).contains = some url →
      allowed (.invalid (.addedAndRemoved url)))
    (hload : FailsOnly allowed (store.loadUser userName))
    (hturn : ∀ (store : Store) (userId : Int) (selected : String → Bool) (subscribed : Bool),
      FailsOnly allowed (store.turnPodcasts userId selected subscribed timestamp)) :
    FailsOnly allowed (store.changeSubscriptions userName device timestamp add remove) := by
  refine hvalidate.bind fun _ hvalid => ?_
  have hname : IsName device := validateName_eq_ok_iff.mp hvalid
  dsimp only
  split
  · next url hfind => exact fails_only_error (hcommon url hfind)
  · refine hload.bind fun user hfound => ?_
    have huser := has_of_load_user hfound
    obtain ⟨registration, hregister⟩ := register_device_iff.mpr ⟨⟨hname, huser⟩, rfl⟩
    have hregistered : (store.withDevice user.id device).users.Has user.id := by
      rwa [users_with_device]
    rw [hregister]
    dsimp only [bind, Except.bind]
    rw [insert_canonical_all hregistered]
    exact (hturn _ _ _ _).bind fun _ _ => (hturn _ _ _ _).bind fun _ _ => fails_only_ok _

end Allowed

/-- For a user who is there and a device of a valid name, a whole list fails only if the store
refuses to turn a podcast. -/
theorem replace_subscriptions_fails (hload : store.loadUser userName = .ok user)
    (hname : IsName device) :
    FailsOnly IsRefusedTurn (store.replaceSubscriptions userName device timestamp raws) := by
  have hvalid : validateName "device" device = .ok () := validateName_eq_ok_iff.mpr hname
  exact replace_subscriptions_fails_only (fails_only_of_ok hvalid) (fails_only_of_ok hload)
    fun _ _ _ _ => turn_podcasts_fails

/-- For a user who is there and a device of a valid name, a difference without a common address fails
only if the store refuses to turn a podcast. -/
theorem change_subscriptions_fails (hload : store.loadUser userName = .ok user)
    (hname : IsName device) (hdisjoint : Disjoint (requested add) (requested remove)) :
    FailsOnly IsRefusedTurn
      (store.changeSubscriptions userName device timestamp add remove) := by
  have hvalid : validateName "device" device = .ok () := validateName_eq_ok_iff.mpr hname
  refine change_subscriptions_fails_only (fails_only_of_ok hvalid) (fun url hfind => ?_)
    (fails_only_of_ok hload) fun _ _ _ _ => turn_podcasts_fails
  rw [find_common_eq_none hdisjoint] at hfind
  cases hfind

/-! ## Main statement -/

/-- The outcome of a whole list agrees with that of the difference to it for a user who is there. -/
theorem replacement_agrees (hload : store.loadUser user.row.name = .ok user) (hname : IsName device)
    (hadd : requested add = requested raws)
    (hremove : requested remove = store.subscribed user.id \ requested raws) :
    Agree SameTransitions (store.replaceSubscriptions user.row.name device timestamp raws)
      (store.changeSubscriptions user.row.name device timestamp add remove) := by
  have hdisjoint : Disjoint (requested add) (requested remove) := by
    rw [hadd, hremove]
    exact Set.disjoint_sdiff_right
  have hforms := canonical_all_of_requested hadd
  -- Both succeed on one condition, with the same rows, and fail in one way.
  have hto : ∀ next update,
      store.replaceSubscriptions user.row.name device timestamp raws = .ok (next, update) →
      store.changeSubscriptions user.row.name device timestamp add remove =
        .ok (next, { update with rewrites := Web.rewrites (add ++ remove) }) := by
    intro next update hreplace
    obtain ⟨hvalid, hstorable, rfl, rfl⟩ := (replace_as_change_iff hload hremove).mp hreplace
    refine (change_subscriptions_iff hload).mpr ⟨hvalid, hdisjoint, hstorable, ?_, ?_⟩
    · rw [hforms]
    · rw [hforms]
      rfl
  have hfrom : ∀ next update,
      store.changeSubscriptions user.row.name device timestamp add remove = .ok (next, update) →
      store.replaceSubscriptions user.row.name device timestamp raws =
        .ok (next, { update with rewrites := Web.rewrites raws }) := by
    intro next update hchange
    obtain ⟨hvalid, _, hstorable, rfl, rfl⟩ := (change_subscriptions_iff hload).mp hchange
    refine (replace_as_change_iff hload hremove).mpr ⟨hvalid, hstorable, ?_, ?_⟩
    · rw [hforms]
    · rw [hforms]
      rfl
  cases hreplace : store.replaceSubscriptions user.row.name device timestamp raws with
  | ok result =>
      rw [hto result.1 result.2 hreplace]
      exact ⟨rfl, rfl, .refl _, rfl⟩
  | error failure =>
      cases hchange : store.changeSubscriptions user.row.name device timestamp add remove with
      | ok result =>
          rw [hfrom result.1 result.2 hchange] at hreplace
          cases hreplace
      | error other =>
          have hfirst := replace_subscriptions_fails hload hname failure hreplace
          have hsecond := change_subscriptions_fails hload hname hdisjoint other hchange
          exact hfirst.trans hsecond.symm

/-- Uploads that agree are steps to the same store. -/
theorem step_of_agree
    (hagree : Agree SameTransitions (store.replaceSubscriptions userName device timestamp raws)
      (store.changeSubscriptions userName device timestamp add remove)) :
    (store.step userName (.replaceSubscriptions device timestamp raws)).1 =
      (store.step userName (.changeSubscriptions device timestamp add remove)).1 := by
  cases hreplace : store.replaceSubscriptions userName device timestamp raws <;>
    cases hchange : store.changeSubscriptions userName device timestamp add remove <;>
    rw [hreplace, hchange] at hagree <;>
    simp only [step, answer, write, hreplace, hchange, Except.map]
  · exact hagree.elim
  · exact hagree.elim
  · exact hagree.1

/-- A whole list and the difference to it are interchangeable in a reachable store, whatever the
user, the device and the time. If the additions mean the addresses of the list, and the removals mean
those that the user is subscribed to and the list lacks, then replacing the subscriptions by the list
and changing them by the difference fail alike, or both succeed, report the same podcasts and leave
the same store. Written row by row, and in whatever order the rows are walked over, the two agree as
well. -/
theorem replacement_as_change (hreachable : store.Reachable) (hadd : requested add = requested raws)
    (hremove : requested remove = store.subscribedBy userName \ requested raws) :
    Agree SameTransitions (store.replaceSubscriptions userName device timestamp raws)
        (store.changeSubscriptions userName device timestamp add remove) ∧
      ∀ order : List (Entry Podcast) → List (Entry Podcast), (∀ rows, (order rows).Perm rows) →
        Agree SameTransitions (store.replaceRowByRow order userName device timestamp raws)
          (store.changeRowByRow userName device timestamp add remove) := by
  have hconsistent := hreachable.consistent
  have hdisjoint : Disjoint (requested add) (requested remove) := by
    rw [hadd, hremove]
    exact Set.disjoint_sdiff_right
  have hagree : Agree SameTransitions (store.replaceSubscriptions userName device timestamp raws)
      (store.changeSubscriptions userName device timestamp add remove) := by
    by_cases hname : IsName device
    · cases hload : store.loadUser userName with
      | ok user =>
          obtain ⟨hmem, rfl⟩ := mem_of_find_user (load_user_ok hload).2.2
          rw [hconsistent.subscribed_by_eq hmem] at hremove
          exact replacement_agrees hload hname hadd hremove
      | error failure =>
          have hvalid : validateName "device" device = .ok () := validateName_eq_ok_iff.mpr hname
          simp only [replaceSubscriptions, changeSubscriptions, hvalid, hload,
            find_common_eq_none hdisjoint, bind, Except.bind]
          exact rfl
    · cases hvalid : validateName "device" device with
      | ok done => exact absurd (validateName_eq_ok_iff.mp hvalid) hname
      | error failure =>
          simp only [replaceSubscriptions, changeSubscriptions, hvalid, bind, Except.bind]
          exact rfl
  refine ⟨hagree, fun order horder => ?_⟩
  rw [hconsistent.change_row_by_row]
  refine (hconsistent.replace_row_by_row horder userName device timestamp raws).trans hagree ?_
  rintro ⟨_, first⟩ ⟨_, second⟩ third ⟨rfl, hperm, hfirst⟩ ⟨hstore, hsubscribed, hunsubscribed, htime⟩
  dsimp only at hfirst
  refine ⟨hstore, ?_, hperm.trans hunsubscribed, ?_⟩
  · rw [← hsubscribed, hfirst]
  · rw [← htime, hfirst]

/-- Of two subscriptions one is replaced, as a whole list and as the difference to it, in other
spellings. At a time that cannot be stored both uploads are refused. -/
theorem replacement_of_one_as_change :
    let store := (Store.empty.run twoSubscriptions).1
    let raws := ["b.example/feed", "http://c.example/feed"]
    let add := ["http://C.example:80/feed", "HTTP://b.example/feed#latest", "ftp://c.example/feed"]
    let remove := ["a.example/feed"]
    let early := Instant.ofUnix (-210866803201)
    let next := (store.step "ann" (.replaceSubscriptions "tablet" (.ofUnix 2000) raws)).1
    next = (store.step "ann" (.changeSubscriptions "tablet" (.ofUnix 2000) add remove)).1 ∧
      next.subscriptions "ann" none = .ok ["http://c.example/feed", "http://b.example/feed"] ∧
      Agree SameTransitions
        (store.replaceRowByRow List.reverse "ann" "tablet" (.ofUnix 2000) raws)
        (store.changeRowByRow "ann" "tablet" (.ofUnix 2000) add remove) ∧
      store.changeSubscriptions "ann" "tablet" early add remove =
        .error (.refused .updateSubscription) := by
  intro store raws add remove early next
  have hreachable : store.Reachable := Reachable.empty.run twoSubscriptions
  have hmem : (⟨1, "ann", false, 10⟩ : Entry User) ∈ store.users.entries := by decide +kernel
  have hraws : Web.canonicalAll raws = ["http://b.example/feed", "http://c.example/feed"] := by
    decide +kernel
  have hadds : Web.canonicalAll add = ["http://b.example/feed", "http://c.example/feed"] := by
    decide +kernel
  have hremoves : Web.canonicalAll remove = ["http://a.example/feed"] := by decide +kernel
  have hentries : store.podcasts.entries =
      [⟨1, ⟨1, "http://a.example/feed", none, none, none, true, .ofUnix 1000⟩⟩,
        ⟨2, ⟨1, "http://c.example/feed", none, none, none, true, .ofUnix 1000⟩⟩] := by
    decide +kernel
  have hadd : requested add = requested raws := by
    rw [requested_eq, requested_eq, hadds, hraws]
  have hremove : requested remove = store.subscribedBy "ann" \ requested raws := by
    rw [hreachable.consistent.subscribed_by_eq hmem, requested_eq, requested_eq, hremoves, hraws]
    unfold subscribed
    rw [hentries]
    refine Set.ext fun url => ?_
    simp only [List.mem_cons, List.not_mem_nil, or_false, Set.mem_ofPred_eq, Set.mem_sdiff,
      exists_eq_or_imp, true_and, and_true, not_or]
    constructor
    · rintro rfl
      exact ⟨.inl rfl, by decide, by decide⟩
    · rintro ⟨rfl | ⟨_, rfl, _, rfl, _⟩, _, hkept⟩
      · rfl
      · exact absurd rfl hkept
  have hlisted : next.subscriptions "ann" none =
      .ok ["http://c.example/feed", "http://b.example/feed"] := by decide +kernel
  have hrefused : store.replaceSubscriptions "ann" "tablet" early raws =
      .error (.refused .updateSubscription) := by decide +kernel
  -- What follows holds of every store with these podcasts.
  clear_value store
  have hagree (time : Instant) := @replacement_as_change store "ann" "tablet" time raws add remove
    hreachable hadd hremove
  obtain ⟨hsame, hrows⟩ := hagree (.ofUnix 2000)
  refine ⟨step_of_agree hsame, hlisted, hrows List.reverse List.reverse_perm, ?_⟩
  have hearly := (hagree early).1
  rw [hrefused] at hearly
  exact hearly.of_error_left

end PodcastLedger.Store
