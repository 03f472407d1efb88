import PodcastLedger.Proofs.Uploads.RowByRow

/-!
# Replacing all subscriptions

`Store.replacement_exact` says what an upload of a whole list does: the canonical forms of the list
are what the user is subscribed to, the answer reports the differences, and nothing else changes, in
whatever order the rows are walked over. Uploading the list again changes and reports nothing.
-/

namespace PodcastLedger

/-- The addresses that are meant by a list of texts: the canonical forms of those that have one. -/
def requested (raws : List String) : Set String :=
  {url | ∃ raw ∈ raws, Web.canonical? raw = some url}

/-- The canonical forms of a list are the addresses meant. -/
theorem requested_eq (raws : List String) : requested raws = {url | url ∈ Web.canonicalAll raws} :=
  Set.ext fun _ => Web.mem_canonical_all.symm

namespace Store

variable {store next : Store} {user : Entry User} {device : String} {timestamp : Instant}
  {raws : List String} {update : SubscriptionUpdate}

/-- An address is not requested. -/
def withdraws (raws : List String) (url : String) : Bool :=
  !(Web.canonicalAll raws).contains url

/-- No address is requested and not. -/
theorem withdraws_of_requested {url : String} (hurl : (Web.canonicalAll raws).contains url = true) :
    withdraws raws url = false := by
  rw [withdraws, hurl, Bool.not_true]

/-- A replacement of subscriptions is an upload of the requested addresses that ends the others. -/
theorem replace_subscriptions_iff (huser : store.loadUser user.row.name = .ok user) :
    store.replaceSubscriptions user.row.name device timestamp raws = .ok (next, update) ↔
      (IsName device ∧ store.users.Has user.id) ∧
        (timestamp.IsStorable ∨ update.unsubscribed = [] ∧ update.subscribed = []) ∧
        next = store.uploaded user.id device (Web.canonicalAll raws) (withdraws raws) timestamp ∧
        update = store.uploadUpdate user.id device (Web.canonicalAll raws) (withdraws raws)
          timestamp (Web.rewrites raws) := by
  have hkept : ∀ url ∈ Web.canonicalAll raws, withdraws raws url = false := fun url hurl =>
    withdraws_of_requested (List.contains_iff_mem.mpr hurl)
  have hdisjoint : ∀ url, withdraws raws url = true → (Web.canonicalAll raws).contains url = false :=
    fun url => by simp [withdraws]
  -- What is not requested may be turned off before or after the rest is catalogued.
  have hended : (store.withDevice user.id device).turnedRows user.id (withdraws raws) false
      timestamp = (store.prepared user.id device (Web.canonicalAll raws)).turnedRows user.id
        (withdraws raws) false timestamp := (turned_rows_with_podcasts hkept).symm
  have hcatalogued : ((store.withDevice user.id device).turned user.id (withdraws raws) false
      timestamp).withPodcasts user.id (Web.canonicalAll raws) =
        (store.prepared user.id device (Web.canonicalAll raws)).turned user.id (withdraws raws)
          false timestamp := with_podcasts_turned hkept
  have hwithdraws : (fun url => !(Web.canonicalAll raws).contains url) = withdraws raws := rfl
  simp only [replaceSubscriptions, bind_eq_ok_iff, validateName_eq_ok_iff, huser, hwithdraws]
  constructor
  · rintro ⟨_, hname, _, hload, ⟨first, registration⟩, hregister, ⟨second, unsubscribed⟩, hoff,
      third, hinsert, ⟨last, subscribed⟩, hon, h⟩
    cases hload
    cases h
    obtain ⟨hvalid, rfl⟩ := register_device_iff.mp ⟨registration, hregister⟩
    obtain ⟨hoffStorable, rfl, rfl⟩ := turn_podcasts_iff.mp hoff
    obtain ⟨_, rfl⟩ := insert_podcasts_iff.mp hinsert
    obtain ⟨honStorable, rfl, rfl⟩ := turn_podcasts_iff.mp hon
    dsimp only at hoffStorable honStorable ⊢
    rw [hended] at hoffStorable ⊢
    rw [hcatalogued, turned_rows_turned hdisjoint] at honStorable ⊢
    rw [turned_comm hdisjoint]
    exact ⟨hvalid, by tauto, rfl, rfl⟩
  · rintro ⟨hvalid, hstorable, rfl, rfl⟩
    obtain ⟨registration, hregister⟩ := register_device_iff.mpr ⟨hvalid, rfl⟩
    refine ⟨(), hvalid.1, user, rfl, _, hregister, _,
      turn_podcasts_iff.mpr ⟨?_, rfl, rfl⟩, _, insert_canonical_all ?_ raws, _,
      turn_podcasts_iff.mpr ⟨?_, rfl, rfl⟩, ?_⟩
    · rw [hended]
      exact hstorable.elim .inr fun hnone => .inl hnone.1
    · show (store.withDevice user.id device).users.Has user.id
      rw [users_with_device]
      exact hvalid.2
    · dsimp only
      rw [hcatalogued, turned_rows_turned hdisjoint]
      exact hstorable.elim .inr fun hnone => .inl hnone.2
    · dsimp only
      rw [hcatalogued, turned_rows_turned hdisjoint, turned_comm hdisjoint, hended]
      rfl

/-- A replacement by what is subscribed to already, from a known device, changes nothing. -/
theorem Consistent.replace_of_subscribed (hconsistent : store.Consistent)
    (hmem : user ∈ store.users.entries) (hname : IsName device)
    (hdevice : (store.findDevice? user.id device).isSome)
    (hsame : store.subscribed user.id = requested raws) :
    store.replaceSubscriptions user.row.name device timestamp raws =
      .ok (store, ⟨[], [], timestamp, Web.rewrites raws⟩) := by
  rw [requested_eq] at hsame
  have hprepared : store.prepared user.id device (Web.canonicalAll raws) = store := by
    rw [prepared, with_device_of_known hdevice]
    exact with_podcasts_of_subset fun url hurl =>
      store.subscribed_subset user.id (hsame.symm ▸ hurl : url ∈ store.subscribed user.id)
  have hoffs : store.turnedRows user.id (withdraws raws) false timestamp = [] := by
    refine List.eq_nil_iff_forall_not_mem.mpr fun podcast hpodcast => ?_
    have haddress : podcast.row.url ∈ {url ∈ store.subscribed user.id | withdraws raws url = true} :=
      addresses_turned_off ▸ ⟨podcast, hpodcast, rfl⟩
    rw [hsame] at haddress
    simp [withdraws] at haddress
  have hons : store.turnedRows user.id (Web.canonicalAll raws).contains true timestamp = [] := by
    refine List.eq_nil_iff_forall_not_mem.mpr fun podcast hpodcast => ?_
    obtain ⟨⟨_, hselected⟩, hended⟩ : podcast.row.url ∈
        {url ∈ store.catalogued user.id | (Web.canonicalAll raws).contains url = true} \
          store.subscribed user.id :=
      hconsistent.addresses_turned_on ▸ ⟨podcast, hpodcast, rfl⟩
    exact hended (hsame ▸ List.contains_iff_mem.mp hselected)
  refine (replace_subscriptions_iff (hconsistent.load_user hmem)).mpr
    ⟨⟨hname, Table.has_of_mem hmem⟩, .inr ⟨rfl, rfl⟩, ?_, ?_⟩
  · rw [uploaded, hprepared, turned_of_rows_eq_nil hons, turned_of_rows_eq_nil hoffs]
  · rw [uploadUpdate, hprepared, hons, hoffs]

/-- Replacing subscriptions is exact. After it the user of a reachable store is subscribed to the
canonical forms of the list, the new subscriptions and the ended ones are reported, and everything
else is as before but for the device, which is registered then. The order in which the podcasts of
the user are walked over shows at most in the order of the ended ones. To replace the subscriptions
again by the same addresses changes and reports nothing, whatever the time. -/
theorem replacement_exact (hreachable : store.Reachable) (hmem : user ∈ store.users.entries)
    (hreplace : store.replaceSubscriptions user.row.name device timestamp raws =
      .ok (next, update)) :
    store.Uploaded next user.id device timestamp (requested raws) update ∧
      next.subscribed user.id = requested raws ∧
      addresses update.subscribed = requested raws \ store.subscribed user.id ∧
      addresses update.unsubscribed = store.subscribed user.id \ requested raws ∧
      (∀ order : List (Entry Podcast) → List (Entry Podcast), (∀ rows, (order rows).Perm rows) →
        ∃ unsubscribed, unsubscribed.Perm update.unsubscribed ∧
          store.replaceRowByRow order user.row.name device timestamp raws =
            .ok (next, { update with unsubscribed })) ∧
      ∀ again raws', requested raws' = requested raws →
        next.replaceSubscriptions user.row.name device again raws' =
          .ok (next, ⟨[], [], again, Web.rewrites raws'⟩) := by
  have hconsistent := hreachable.consistent
  have hload := hconsistent.load_user hmem
  obtain ⟨⟨hname, huser⟩, _, rfl, rfl⟩ := (replace_subscriptions_iff hload).mp hreplace
  have hends : {url | withdraws raws url = true} = (requested raws)ᶜ := by
    rw [requested_eq]
    ext url
    simp [withdraws]
  have hsubscribed : (store.uploaded user.id device (Web.canonicalAll raws) (withdraws raws)
      timestamp).subscribed user.id = requested raws := by
    rw [subscribed_uploaded, hends, ← requested_eq]
    ext url
    simp
  have huploaded : store.Uploaded
      (store.uploaded user.id device (Web.canonicalAll raws) (withdraws raws) timestamp) user.id
      device timestamp (requested raws)
      (store.uploadUpdate user.id device (Web.canonicalAll raws) (withdraws raws) timestamp
        (Web.rewrites raws)) := by
    rw [requested_eq]
    exact hconsistent.upload huser hname (fun _ => withdraws_of_requested) _
  refine ⟨huploaded, hsubscribed, ?_, ?_, fun order horder => ?_, fun again raws' hraws => ?_⟩
  · rw [hconsistent.addresses_subscribed huser hname, requested_eq]
  · rw [addresses_unsubscribed]
    exact congrArg (store.subscribed user.id ∩ ·) hends
  · have hagree := hconsistent.replace_row_by_row horder user.row.name device timestamp raws
    rw [hreplace] at hagree
    cases houtcome : store.replaceRowByRow order user.row.name device timestamp raws with
    | error failure =>
        rw [houtcome] at hagree
        exact hagree.elim
    | ok result =>
        obtain ⟨last, answer⟩ := result
        rw [houtcome] at hagree
        obtain ⟨rfl, hperm, hanswer⟩ := hagree
        exact ⟨answer.unsubscribed, hperm, congrArg (fun update => Except.ok (_, update)) hanswer⟩
  · refine (hconsistent.after_upload huser hname).replace_of_subscribed ?_ hname huploaded.find_device ?_
    · rw [users_uploaded]
      exact hmem
    · rw [hsubscribed, hraws]

/-- A user subscribes to two podcasts. -/
def twoSubscriptions : List (String × Request) :=
  [("ann", .createUser "long enough" 10),
    ("ann", .replaceSubscriptions "phone" (.ofUnix 1000)
      ["http://a.example/feed", "http://c.example/feed"])]

/-- Of two subscriptions one is replaced and the other one kept, though written in another way. -/
theorem replacement_of_one :
    let store := (Store.empty.run twoSubscriptions).1
    let raws := ["b.example/feed", "HTTP://C.example:80/feed#latest", "ftp://c.example/feed"]
    let next := (store.step "ann" (.replaceSubscriptions "tablet" (.ofUnix 2000) raws)).1
    let update : SubscriptionUpdate :=
      ⟨[⟨3, ⟨1, "http://b.example/feed", none, none, none, true, .ofUnix 2000⟩⟩],
        [⟨1, ⟨1, "http://a.example/feed", none, none, none, false, .ofUnix 2000⟩⟩], .ofUnix 2000,
        Web.rewrites raws⟩
    store.Uploaded next 1 "tablet" (.ofUnix 2000) (requested raws) update ∧
      next.subscribed 1 = requested raws ∧
      next.subscriptions "ann" none = .ok ["http://c.example/feed", "http://b.example/feed"] ∧
      (∃ unsubscribed, unsubscribed.Perm update.unsubscribed ∧
        store.replaceRowByRow List.reverse "ann" "tablet" (.ofUnix 2000) raws =
          .ok (next, { update with unsubscribed })) ∧
      next.replaceSubscriptions "ann" "tablet" (.ofUnix 3000) raws =
        .ok (next, ⟨[], [], .ofUnix 3000, Web.rewrites raws⟩) := by
  intro store raws next update
  have hmem : (⟨1, "ann", false, 10⟩ : Entry User) ∈ store.users.entries := by decide +kernel
  have hurls : Web.canonicalAll raws = ["http://b.example/feed", "http://c.example/feed"] := by
    decide +kernel
  have hons : (store.prepared 1 "tablet" (Web.canonicalAll raws)).podcasts.entries.filter
        (isTurned 1 (Web.canonicalAll raws).contains true) =
      [⟨3, .fresh 1 "http://b.example/feed"⟩] := by
    rw [hurls]
    decide +kernel
  have hoffs : (store.prepared 1 "tablet" (Web.canonicalAll raws)).podcasts.entries.filter
        (isTurned 1 (withdraws raws) false) =
      [⟨1, ⟨1, "http://a.example/feed", none, none, none, true, .ofUnix 1000⟩⟩] := by
    unfold withdraws
    rw [hurls]
    decide +kernel
  have hreplace : store.replaceSubscriptions "ann" "tablet" (.ofUnix 2000) raws =
      .ok (next, update) := by
    have hload : store.loadUser (⟨1, "ann", false, 10⟩ : Entry User).row.name =
        .ok ⟨1, "ann", false, 10⟩ := by decide +kernel
    refine (replace_subscriptions_iff hload).mpr
      ⟨by decide +kernel, .inl (by decide), by decide +kernel, ?_⟩
    rw [uploadUpdate, turned_rows_of_filter_eq hons, turned_rows_of_filter_eq hoffs]
    rfl
  obtain ⟨huploaded, hsubscribed, _, _, hrows, hagain⟩ :=
    replacement_exact (Reachable.empty.run twoSubscriptions) hmem hreplace
  exact ⟨huploaded, hsubscribed, by decide +kernel, hrows List.reverse List.reverse_perm,
    hagain (.ofUnix 3000) raws rfl⟩

end Store

end PodcastLedger
