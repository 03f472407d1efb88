import PodcastLedger.Proofs.Uploads.Standing

/-!
# Changing subscriptions

`Store.change_exact` says what an upload of additions and removals does: no address may be in both,
what is added is catalogued and subscribed to, what is removed ends if it was subscribed to, and
nothing else changes. Uploading the additions and removals one at a time, in any order, leaves the
same standings.
-/

namespace PodcastLedger.Store

variable {store next : Store} {user : Entry User} {device : String} {timestamp : Instant}
  {add remove : List String} {update : SubscriptionUpdate}

/-- The additions and removals of an upload have no address in common. -/
theorem disjoint_iff :
    Disjoint (requested add) (requested remove) ↔
      ∀ url, (Web.canonicalAll add).contains url = true →
        (Web.canonicalAll remove).contains url = false := by
  rw [requested_eq, requested_eq, Set.disjoint_left]
  simp

/-- An upload that adds and removes one address is refused before anything else is looked at. -/
theorem change_refused (hname : IsName device)
    (hcommon : ¬ Disjoint (requested add) (requested remove)) :
    ∃ url ∈ requested add ∩ requested remove, ∀ (store : Store) (userName : String),
      store.changeSubscriptions userName device timestamp add remove =
        .error (.invalid (.addedAndRemoved url)) := by
  obtain ⟨common, hcommonAdd, hcommonRemove⟩ := Set.not_disjoint_iff.mp hcommon
  rw [requested_eq] at hcommonAdd hcommonRemove
  cases hfind : (Web.canonicalAll add).find? (Web.canonicalAll remove).contains with
  | none =>
      have hnone := List.find?_eq_none.mp hfind common hcommonAdd
      exact absurd (List.contains_iff_mem.mpr hcommonRemove) hnone
  | some url =>
      refine ⟨url, ⟨?_, ?_⟩, fun store userName => ?_⟩
      · rw [requested_eq]
        exact List.mem_of_find?_eq_some hfind
      · rw [requested_eq]
        exact List.contains_iff_mem.mp (List.find?_some hfind)
      · have hvalid : validateName "device" device = .ok () := validateName_eq_ok_iff.mpr hname
        unfold changeSubscriptions
        rw [hvalid]
        simp only [bind, Except.bind, hfind]

/-- A change of subscriptions is an upload of the added addresses that ends the removed ones. -/
theorem change_subscriptions_iff (huser : store.loadUser user.row.name = .ok user) :
    store.changeSubscriptions user.row.name device timestamp add remove = .ok (next, update) ↔
      (IsName device ∧ store.users.Has user.id) ∧
        Disjoint (requested add) (requested remove) ∧
        (timestamp.IsStorable ∨ update.subscribed = [] ∧ update.unsubscribed = []) ∧
        next = store.uploaded user.id device (Web.canonicalAll add)
          (Web.canonicalAll remove).contains timestamp ∧
        update = store.uploadUpdate user.id device (Web.canonicalAll add)
          (Web.canonicalAll remove).contains timestamp (Web.rewrites (add ++ remove)) := by
  have hfound : (Web.canonicalAll add).find? (Web.canonicalAll remove).contains = none ↔
      Disjoint (requested add) (requested remove) := by
    rw [disjoint_iff]
    simp [List.find?_eq_none]
  constructor
  · intro h
    simp only [changeSubscriptions, bind_eq_ok_iff, validateName_eq_ok_iff] at h
    obtain ⟨_, hname, h⟩ := h
    split at h
    · cases h
    · next hnone =>
        simp only [huser, bind_eq_ok_iff] at h
        obtain ⟨_, hload, ⟨first, registration⟩, hregister, second, hinsert, ⟨third, subscribed⟩,
          hon, ⟨last, unsubscribed⟩, hoff, h⟩ := h
        cases hload
        cases h
        have hdisjoint := hfound.mp hnone
        obtain ⟨hvalid, rfl⟩ := register_device_iff.mp ⟨registration, hregister⟩
        obtain ⟨_, rfl⟩ := insert_podcasts_iff.mp hinsert
        obtain ⟨honStorable, rfl, rfl⟩ := turn_podcasts_iff.mp hon
        obtain ⟨hoffStorable, rfl, rfl⟩ := turn_podcasts_iff.mp hoff
        dsimp only at honStorable hoffStorable ⊢
        rw [turned_rows_turned (disjoint_iff.mp hdisjoint)] at hoffStorable ⊢
        refine ⟨hvalid, hdisjoint, ?_, rfl, rfl⟩
        show timestamp.IsStorable ∨ turnedRows (store.prepared user.id device _) .. = [] ∧
          turnedRows (store.prepared user.id device _) .. = []
        unfold prepared
        tauto
  · rintro ⟨hvalid, hdisjoint, hstorable, rfl, rfl⟩
    obtain ⟨registration, hregister⟩ := register_device_iff.mpr ⟨hvalid, rfl⟩
    have hnamed : validateName "device" device = .ok () := validateName_eq_ok_iff.mpr hvalid.1
    have hregisteredUser : (store.withDevice user.id device).users.Has user.id := by
      rw [users_with_device]
      exact hvalid.2
    have hon := turn_podcasts_of (hstorable.elim Or.inr fun hnone => .inl hnone.1)
    have hoff : ((store.prepared user.id device (Web.canonicalAll add)).turned user.id
          (Web.canonicalAll add).contains true timestamp).turnedRows user.id
            (Web.canonicalAll remove).contains false timestamp = [] ∨ timestamp.IsStorable := by
      rw [turned_rows_turned (disjoint_iff.mp hdisjoint)]
      exact hstorable.elim .inr fun hnone => .inl hnone.2
    unfold prepared at hon hoff
    unfold changeSubscriptions
    simp only [hnamed, hfound.mpr hdisjoint, huser, hregister,
      insert_canonical_all hregisteredUser, hon, turn_podcasts_of hoff, bind, Except.bind]
    rw [turned_rows_turned (disjoint_iff.mp hdisjoint)]
    rfl

/-- The change can be written: its time can be stored, or it changes nothing. -/
def Writable (store : Store) (userId : Int) (timestamp : Instant) (add remove : List String) :
    Prop :=
  timestamp.IsStorable ∨
    requested add ⊆ store.subscribed userId ∧ Disjoint (requested remove) (store.subscribed userId)

/-- Reports are empty exactly if a change changes nothing. -/
theorem Consistent.writable_iff (hconsistent : store.Consistent) (huser : store.users.Has user.id)
    (hname : IsName device) (rewrites : List Web.Rewrite) :
    let update := store.uploadUpdate user.id device (Web.canonicalAll add)
      (Web.canonicalAll remove).contains timestamp rewrites
    (timestamp.IsStorable ∨ update.subscribed = [] ∧ update.unsubscribed = []) ↔
      store.Writable user.id timestamp add remove := by
  intro update
  have hempty : ∀ rows : List (Entry Podcast), rows = [] ↔ addresses rows = ∅ := by
    intro rows
    constructor
    · rintro rfl
      exact Set.eq_empty_iff_forall_notMem.mpr fun url ⟨_, hmem, _⟩ => by cases hmem
    · intro hnone
      refine List.eq_nil_iff_forall_not_mem.mpr fun podcast hmem => ?_
      exact Set.eq_empty_iff_forall_notMem.mp hnone podcast.row.url ⟨podcast, hmem, rfl⟩
  unfold Writable
  rw [hempty, hempty, hconsistent.addresses_subscribed huser hname, addresses_unsubscribed,
    ← requested_eq, Set.sdiff_eq_empty, Set.disjoint_left]
  simp only [contains_iff_requested, Set.eq_empty_iff_forall_notMem, Set.mem_ofPred_eq, not_and]
  refine or_congr_right (and_congr_right fun _ => ?_)
  exact ⟨fun h url hremove hsubscribed => h url hsubscribed hremove,
    fun h url hsubscribed hremove => h hremove hsubscribed⟩

/-- A change that can be written is made. -/
theorem Consistent.change_ok (hconsistent : store.Consistent) (hmem : user ∈ store.users.entries)
    (hname : IsName device) (hdisjoint : Disjoint (requested add) (requested remove))
    (hwritable : store.Writable user.id timestamp add remove) :
    store.changeSubscriptions user.row.name device timestamp add remove =
      .ok (store.uploaded user.id device (Web.canonicalAll add)
          (Web.canonicalAll remove).contains timestamp,
        store.uploadUpdate user.id device (Web.canonicalAll add)
          (Web.canonicalAll remove).contains timestamp (Web.rewrites (add ++ remove))) := by
  have huser := Table.has_of_mem hmem
  exact (change_subscriptions_iff (hconsistent.load_user hmem)).mpr
    ⟨⟨hname, huser⟩, hdisjoint, (hconsistent.writable_iff huser hname _).mpr hwritable, rfl, rfl⟩

/-! ## One at a time -/

/-- The texts that are added by changes of one text each. -/
def additions (singles : List (String × Bool)) : List String :=
  (singles.filter fun single => single.2).map fun single => single.1

/-- The texts that are removed by changes of one text each. -/
def removals (singles : List (String × Bool)) : List String :=
  (singles.filter fun single => !single.2).map fun single => single.1

/-- Changes of one text each that add and remove the same addresses as a change of many. -/
def Splits (singles : List (String × Bool)) (add remove : List String) : Prop :=
  requested (additions singles) = requested add ∧ requested (removals singles) = requested remove

/-- A change may be split into its texts, in any order. -/
theorem splits_of_perm {singles : List (String × Bool)}
    (hperm : singles.Perm (add.map (·, true) ++ remove.map (·, false))) :
    Splits singles add remove := by
  have hrequested : ∀ {first second : List String}, first.Perm second →
      requested first = requested second := by
    intro first second hsame
    refine Set.ext fun url => exists_congr fun raw => ?_
    rw [hsame.mem_iff]
  have hadditions : additions (add.map (·, true) ++ remove.map (·, false)) = add := by
    simp [additions, List.filter_map, Function.comp_def]
  have hremovals : removals (add.map (·, true) ++ remove.map (·, false)) = remove := by
    simp [removals, List.filter_map, Function.comp_def]
  constructor
  · exact hadditions ▸ hrequested ((hperm.filter _).map _)
  · exact hremovals ▸ hrequested ((hperm.filter _).map _)

/-- The upload of one text by a device. -/
def singleUpload (device : String) (timestamp : Instant) : String × Bool → Request
  | (raw, true) => .changeSubscriptions device timestamp [raw] []
  | (raw, false) => .changeSubscriptions device timestamp [] [raw]

/-- The uploads of one text each, by one device and as of one time. -/
def singleUploads (userName device : String) (timestamp : Instant)
    (singles : List (String × Bool)) : List (String × Request) :=
  singles.map fun single => (userName, singleUpload device timestamp single)

/-- An upload that succeeds is the step of a session. -/
theorem step_change {userName : String}
    (hchange : store.changeSubscriptions userName device timestamp add remove = .ok (next, update)) :
    store.step userName (.changeSubscriptions device timestamp add remove) =
      (next, .ok (.subscriptionUpdate update)) := by
  simp [step, answer, write, hchange, Except.map]

/-- A session goes on from where its first step leads. -/
theorem run_cons {userName : String} {request : Request} {answer : Except Failure Answer}
    {rest : List (String × Request)} (hstep : store.step userName request = (next, answer)) :
    store.run ((userName, request) :: rest) = ((next.run rest).1, answer :: (next.run rest).2) := by
  rw [run, hstep]

/-- A change that can be written can be made in two parts. -/
theorem Writable.split {userId : Int} {add' remove' : List String}
    (hwritable : store.Writable userId timestamp (add ++ add') (remove ++ remove'))
    (hdisjoint : Disjoint (requested (add ++ add')) (requested (remove ++ remove')))
    (device : String) :
    store.Writable userId timestamp add remove ∧
      (store.uploaded userId device (Web.canonicalAll add) (Web.canonicalAll remove).contains
        timestamp).Writable userId timestamp add' remove' := by
  rcases hwritable with hstorable | ⟨hadd, hremove⟩
  · exact ⟨.inl hstorable, .inl hstorable⟩
  · rw [requested_append] at hadd hremove
    rw [requested_append, requested_append] at hdisjoint
    refine ⟨.inr ⟨fun url hurl => hadd (.inl hurl), hremove.mono_left Set.subset_union_left⟩, ?_⟩
    refine .inr ?_
    rw [subscribed_uploaded, ← requested_eq]
    constructor
    · intro url hurl
      refine ⟨.inl (hadd (.inr hurl)), fun hended => ?_⟩
      exact Set.disjoint_left.mp hdisjoint (.inr hurl) (.inl (contains_iff_requested.mp hended))
    · refine Set.disjoint_left.mpr ?_
      rintro url hurl ⟨hold | hnew, _⟩
      · exact Set.disjoint_left.mp hremove (.inr hurl) hold
      · exact Set.disjoint_left.mp hdisjoint (.inl hnew) (.inr hurl)

/-- An upload of one text after another changes the standing of each address as one upload of all
does. -/
theorem Consistent.standing_run (hconsistent : store.Consistent)
    (hmem : user ∈ store.users.entries) (hname : IsName device) {singles : List (String × Bool)}
    (hdisjoint : Disjoint (requested (additions singles)) (requested (removals singles)))
    (hwritable : store.Writable user.id timestamp (additions singles) (removals singles)) :
    let outcome := store.run (singleUploads user.row.name device timestamp singles)
    (∀ answer ∈ outcome.2, ∃ update, answer = .ok (.subscriptionUpdate update)) ∧
      ∀ url, outcome.1.standing? user.id url =
        changed (wantedSide (additions singles) (removals singles) url) timestamp.stored
          (store.standing? user.id url) := by
  induction singles generalizing store with
  | nil => exact ⟨List.forall_mem_nil _, fun url => rfl⟩
  | cons single rest ih =>
      have hadd : additions (single :: rest) = additions [single] ++ additions rest := by
        rcases single with ⟨raw, _ | _⟩ <;> rfl
      have hremove : removals (single :: rest) = removals [single] ++ removals rest := by
        rcases single with ⟨raw, _ | _⟩ <;> rfl
      have hrequest : singleUpload device timestamp single =
          .changeSubscriptions device timestamp (additions [single]) (removals [single]) := by
        rcases single with ⟨raw, _ | _⟩ <;> rfl
      rw [hadd, hremove] at hdisjoint hwritable
      have huser := Table.has_of_mem hmem
      obtain ⟨hfirstWritable, hrestWritable⟩ := hwritable.split hdisjoint device
      have hparts := hdisjoint
      rw [requested_append, requested_append] at hparts
      have hfirst := hparts.mono Set.subset_union_left Set.subset_union_left
      have hrest := hparts.mono Set.subset_union_right Set.subset_union_right
      have hstep := step_change (hconsistent.change_ok hmem hname hfirst hfirstWritable)
      obtain ⟨hanswers, hstandings⟩ := ih (hconsistent.after_upload huser hname)
        (by rwa [users_uploaded]) hrest hrestWritable
      rw [singleUploads, List.map_cons, hrequest, run_cons hstep]
      refine ⟨List.forall_mem_cons.mpr ⟨⟨_, rfl⟩, hanswers⟩, fun url => ?_⟩
      refine (hstandings url).trans ?_
      rw [standing_uploaded (disjoint_iff.mp hfirst), hadd, hremove, changed_wanted_append hdisjoint]

/-! ## Main statement -/

/-- Changing subscriptions is exact. An upload that adds and removes one address is refused in every
store and for every user. Otherwise, when it succeeds on a reachable store, the added addresses are
in the catalog and subscribed to, the removed ones are not, the answer reports the podcasts that were
turned, and everything else is as before but for the device, which is registered then; written row
by row it is the same. Uploads of the same additions and removals one at a time, in any order, all
succeed and leave every address at the same standing. -/
theorem change_exact (hreachable : store.Reachable) (hmem : user ∈ store.users.entries)
    (hname : IsName device) :
    (¬ Disjoint (requested add) (requested remove) →
      ∃ url ∈ requested add ∩ requested remove, ∀ (other : Store) (userName : String),
        other.changeSubscriptions userName device timestamp add remove =
          .error (.invalid (.addedAndRemoved url))) ∧
      ∀ next update,
        store.changeSubscriptions user.row.name device timestamp add remove = .ok (next, update) →
        Disjoint (requested add) (requested remove) ∧
          store.Uploaded next user.id device timestamp (requested add) update ∧
          next.catalogued user.id = store.catalogued user.id ∪ requested add ∧
          next.subscribed user.id =
            (store.subscribed user.id ∪ requested add) \ requested remove ∧
          addresses update.subscribed = requested add \ store.subscribed user.id ∧
          addresses update.unsubscribed = requested remove ∩ store.subscribed user.id ∧
          store.changeRowByRow user.row.name device timestamp add remove = .ok (next, update) ∧
          ∀ singles, Splits singles add remove →
            let outcome := store.run (singleUploads user.row.name device timestamp singles)
            (∀ answer ∈ outcome.2, ∃ update, answer = .ok (.subscriptionUpdate update)) ∧
              ∀ url, outcome.1.standing? user.id url = next.standing? user.id url := by
  have hconsistent := hreachable.consistent
  have huser := Table.has_of_mem hmem
  refine ⟨change_refused hname, fun next update hchange => ?_⟩
  obtain ⟨_, hdisjoint, hstorable, rfl, rfl⟩ :=
    (change_subscriptions_iff (hconsistent.load_user hmem)).mp hchange
  have hends : {url | (Web.canonicalAll remove).contains url = true} = requested remove :=
    Set.ext fun url => contains_iff_requested
  refine ⟨hdisjoint, ?_, ?_, ?_, ?_, ?_, ?_, ?_⟩
  · rw [requested_eq add]
    exact hconsistent.upload huser hname (disjoint_iff.mp hdisjoint) _
  · rw [catalogued_uploaded, requested_eq]
  · rw [subscribed_uploaded, hends, requested_eq add]
  · rw [hconsistent.addresses_subscribed huser hname, requested_eq]
  · rw [addresses_unsubscribed, Set.inter_comm, ← hends]
    rfl
  · rw [hconsistent.change_row_by_row]
    exact hchange
  · rintro singles ⟨hadd, hremove⟩
    have hwritable := (hconsistent.writable_iff huser hname _).mp hstorable
    unfold Writable at hwritable
    rw [← hadd, ← hremove] at hwritable hdisjoint
    obtain ⟨hanswers, hstandings⟩ := hconsistent.standing_run hmem hname hdisjoint hwritable
    refine ⟨hanswers, fun url => ?_⟩
    rw [hstandings, standing_uploaded (disjoint_iff.mp (hadd ▸ hremove ▸ hdisjoint)),
      wanted_side_congr hadd hremove]

/-- One podcast is added and one removed, and two are mentioned that are as wanted already. -/
theorem change_of_two :
    let store := (Store.empty.run twoSubscriptions).1
    let add := ["b.example/feed", "http://c.example/feed"]
    let remove := ["http://A.example/feed", "http://d.example/feed"]
    let next := (store.step "ann" (.changeSubscriptions "tablet" (.ofUnix 2000) add remove)).1
    let update : SubscriptionUpdate :=
      ⟨[⟨3, ⟨1, "http://b.example/feed", none, none, none, true, .ofUnix 2000⟩⟩],
        [⟨1, ⟨1, "http://a.example/feed", none, none, none, false, .ofUnix 2000⟩⟩], .ofUnix 2000,
        Web.rewrites (add ++ remove)⟩
    let singles := [("http://d.example/feed", false), ("http://c.example/feed", true),
      ("http://A.example/feed", false), ("b.example/feed", true)]
    store.Uploaded next 1 "tablet" (.ofUnix 2000) (requested add) update ∧
      next.subscriptions "ann" none = .ok ["http://c.example/feed", "http://b.example/feed"] ∧
      store.changeRowByRow "ann" "tablet" (.ofUnix 2000) add remove = .ok (next, update) ∧
      ∀ url, (store.run (singleUploads "ann" "tablet" (.ofUnix 2000) singles)).1.standing? 1 url =
        next.standing? 1 url := by
  intro store add remove next update singles
  have hmem : (⟨1, "ann", false, 10⟩ : Entry User) ∈ store.users.entries := by decide +kernel
  have hload : store.loadUser (⟨1, "ann", false, 10⟩ : Entry User).row.name =
      .ok ⟨1, "ann", false, 10⟩ := by decide +kernel
  have hadd : Web.canonicalAll add = ["http://b.example/feed", "http://c.example/feed"] := by
    decide +kernel
  have hremove : Web.canonicalAll remove = ["http://a.example/feed", "http://d.example/feed"] := by
    decide +kernel
  have hons : (store.prepared 1 "tablet" (Web.canonicalAll add)).podcasts.entries.filter
      (isTurned 1 (Web.canonicalAll add).contains true) =
        [⟨3, .fresh 1 "http://b.example/feed"⟩] := by
    rw [hadd]
    decide +kernel
  have hoffs : (store.prepared 1 "tablet" (Web.canonicalAll add)).podcasts.entries.filter
      (isTurned 1 (Web.canonicalAll remove).contains false) =
        [⟨1, ⟨1, "http://a.example/feed", none, none, none, true, .ofUnix 1000⟩⟩] := by
    rw [hadd, hremove]
    decide +kernel
  have hdisjoint : Disjoint (requested add) (requested remove) := by
    rw [disjoint_iff, hadd, hremove]
    simp
  have hchange : store.changeSubscriptions "ann" "tablet" (.ofUnix 2000) add remove =
      .ok (next, update) := by
    refine (change_subscriptions_iff hload).mpr
      ⟨by decide +kernel, hdisjoint, .inl (by decide), by decide +kernel, ?_⟩
    rw [uploadUpdate, turned_rows_of_filter_eq hons, turned_rows_of_filter_eq hoffs]
    rfl
  have hsplits : Splits singles add remove := splits_of_perm (by decide)
  obtain ⟨_, huploaded, _, _, _, _, hrows, hsingles⟩ :=
    (change_exact (Reachable.empty.run twoSubscriptions) hmem (by decide)).2 next update hchange
  exact ⟨huploaded, by decide +kernel, hrows, (hsingles singles hsplits).2⟩

end PodcastLedger.Store
