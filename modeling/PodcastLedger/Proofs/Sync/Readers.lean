import PodcastLedger.Proofs.Sync.Convergence

/-!
# Readers of subscriptions

Subscriptions are read in three ways: as addresses, as changes for a device, and as a number beside
each device. All of them read the same rows (`Store.listed`), in the same order, and so they agree
(`Store.subscription_readers_agree`). A later time leaves out more of the changes, but times are
compared as the store keeps them, where a leap second may come after the second that follows it.
-/

namespace PodcastLedger.Store

variable {store : Store} {user : Entry User} {userId : Int} {since : Option Instant}
  {first second : Instant} {subscribed : Bool} {podcast : Entry Podcast}

/-- Without a time it depends on the subscription, with one on when it was turned. -/
instance (since : Option Instant) (podcast : Podcast) : Decidable (IsConcerned since podcast) :=
  match since with
  | some bound => inferInstanceAs (Decidable (bound.stored < podcast.updatedAt))
  | none => inferInstanceAs (Decidable (podcast.subscribed = true))

/-- The podcasts of a user, subscribed to or not, that a device is told of, in the order in which
they were added. -/
def listed (store : Store) (userId : Int) (since : Option Instant) (subscribed : Bool) :
    List (Entry Podcast) :=
  store.podcasts.entries.filter fun podcast =>
    decide (podcast.row.userId = userId ∧ podcast.row.subscribed = subscribed ∧
      IsConcerned since podcast.row)

/-- What a device of a user is told of. -/
def changesSince (store : Store) (userId : Int) (since : Option Instant) : SubscriptionChanges :=
  ⟨store.listed userId since true, store.listed userId since false⟩

/-- What is listed are podcasts of the user. -/
theorem mem_listed_iff :
    podcast ∈ store.listed userId since subscribed ↔
      podcast ∈ store.podcasts.entries ∧ podcast.row.userId = userId ∧
        podcast.row.subscribed = subscribed ∧ IsConcerned since podcast.row := by
  simp [listed]

/-- Podcasts are selected as they are listed if the condition says the same. -/
theorem filter_eq_listed {condition : Entry Podcast → Bool}
    (hcondition : ∀ podcast : Entry Podcast, condition podcast = true ↔
      podcast.row.userId = userId ∧ podcast.row.subscribed = subscribed ∧
        IsConcerned since podcast.row) :
    store.podcasts.entries.filter condition = store.listed userId since subscribed :=
  List.filter_congr fun podcast _ => by rw [Bool.eq_iff_iff, hcondition, decide_eq_true_iff]

/-! ## The readers -/

/-- The changes for a device are what is listed, whichever device it is. -/
theorem Consistent.subscription_changes_eq (hconsistent : store.Consistent)
    (hmem : user ∈ store.users.entries) {device : Entry Device}
    (hdevice : device ∈ store.devices.entries) (howner : device.row.userId = user.id)
    (hsince : ∀ bound ∈ since, bound.IsStorable) :
    store.subscriptionChanges user.row.name device.row.name since =
      .ok (store.changesSince user.id since) := by
  have hfound : store.findDevice? user.id device.row.name = some device :=
    hconsistent.find_device_iff.mpr ⟨hdevice, howner, rfl⟩
  unfold subscriptionChanges requireBound changesSince
  rw [hconsistent.load_user hmem]
  simp only [bind, Except.bind, hconsistent.load_device hfound, require_of hsince,
    List.partition_eq_filter_filter, List.filter_filter]
  congr 2
  · refine filter_eq_listed fun podcast => ?_
    cases since with
    | none => simp [IsConcerned, and_comm]
    | some bound => simp [IsConcerned, isAfter, and_left_comm]
  · refine filter_eq_listed fun podcast => ?_
    cases since with
    -- Without a time only subscriptions are loaded, and none of them is on the other side.
    | none => simp +contextual [IsConcerned]
    | some bound => simp [IsConcerned, isAfter, and_left_comm]

/-- The addresses of subscriptions are those of what is listed as added. -/
theorem Consistent.subscriptions_eq (hconsistent : store.Consistent)
    (hmem : user ∈ store.users.entries) (hsince : ∀ bound ∈ since, bound.IsStorable) :
    store.subscriptions user.row.name since =
      .ok ((store.listed user.id since true).map fun podcast => podcast.row.url) := by
  unfold subscriptions requireBound
  rw [hconsistent.load_user hmem]
  simp only [bind, Except.bind, require_of hsince]
  congr 2
  refine filter_eq_listed fun podcast => ?_
  cases since <;> simp [IsConcerned, isAfter, and_assoc]

/-- The number of subscriptions is that of what is listed without a time. -/
theorem count_subscriptions_listed (store : Store) (userId : Int) :
    store.countSubscriptions userId = (store.listed userId none true).length := by
  unfold countSubscriptions
  rw [List.countP_eq_length_filter]
  congr 1
  refine filter_eq_listed fun podcast => ?_
  simp [IsConcerned]

/-! ## What is listed -/

/-- No address is listed twice on a side. -/
theorem Consistent.listed_nodup (hconsistent : store.Consistent) (userId : Int)
    (since : Option Instant) (subscribed : Bool) :
    ((store.listed userId since subscribed).map fun podcast => podcast.row.url).Nodup := by
  have hunique : store.podcasts.entries.Pairwise fun first second =>
      (first.row.userId, first.row.url) ≠ (second.row.userId, second.row.url) :=
    List.pairwise_map.mp hconsistent.podcasts_unique
  refine List.pairwise_map.mpr ((hunique.filter _).imp_of_mem fun hfirst hsecond hkeys hurl => ?_)
  have hfirstOwner := (mem_listed_iff.mp hfirst).2.1
  have hsecondOwner := (mem_listed_iff.mp hsecond).2.1
  exact hkeys (Prod.ext (hfirstOwner.trans hsecondOwner.symm) hurl)

/-- No address is listed on both sides. -/
theorem Consistent.listed_disjoint (hconsistent : store.Consistent) {removed : Entry Podcast}
    (hadded : podcast ∈ store.listed userId since true)
    (hremoved : removed ∈ store.listed userId since false) : podcast.row.url ≠ removed.row.url := by
  intro hurl
  obtain ⟨hmem, howner, hsubscribed, _⟩ := mem_listed_iff.mp hadded
  obtain ⟨hother, hotherOwner, hended, _⟩ := mem_listed_iff.mp hremoved
  rw [hconsistent.podcast_eq hmem hother howner hotherOwner hurl, hended] at hsubscribed
  cases hsubscribed

/-- What is listed from a later time on is listed from an earlier time on, in the order in which the
store keeps them. -/
theorem listed_sublist_of_le (hle : first.stored ≤ second.stored) :
    (store.listed userId (some second) subscribed).Sublist
      (store.listed userId (some first) subscribed) := by
  refine List.monotone_filter_right _ fun podcast hlisted => ?_
  rw [decide_eq_true_iff] at hlisted ⊢
  obtain ⟨howner, hside, hlater⟩ := hlisted
  exact ⟨howner, hside, Int.lt_of_le_of_lt hle hlater⟩

/-- What is listed as added is a subscription. -/
theorem added_sublist (store : Store) (userId : Int) (since : Option Instant) :
    (store.listed userId since true).Sublist (store.listed userId none true) := by
  refine List.monotone_filter_right _ fun podcast hlisted => ?_
  rw [decide_eq_true_iff] at hlisted ⊢
  obtain ⟨howner, hside, _⟩ := hlisted
  exact ⟨howner, hside, hside⟩

/-! ## Agreement -/

/-- What the readers of the changes and of the addresses tell a user about one time. -/
structure ReadersAgree (store : Store) (user : Entry User) (since : Option Instant)
    (changes : SubscriptionChanges) : Prop where
  devices : ∀ device ∈ store.devices.entries, device.row.userId = user.id →
    store.subscriptionChanges user.row.name device.row.name since = .ok changes
  urls : store.subscriptions user.row.name since =
    .ok (changes.added.map fun podcast => podcast.row.url)
  nodup : (changes.added.map fun podcast => podcast.row.url).Nodup
  disjoint : ∀ added ∈ changes.added, ∀ removed ∈ changes.removed,
    added ≠ removed ∧ added.row.url ≠ removed.row.url
  owned : ∀ podcast ∈ changes.added ++ changes.removed,
    podcast ∈ store.podcasts.entries ∧ podcast.row.userId = user.id

/-- The readers agree about each time that can be stored. -/
theorem Consistent.readers_tell_alike (hconsistent : store.Consistent)
    (hmem : user ∈ store.users.entries) (hsince : ∀ bound ∈ since, bound.IsStorable) :
    store.ReadersAgree user since (store.changesSince user.id since) where
  devices device hdevice howner :=
    hconsistent.subscription_changes_eq hmem hdevice howner hsince
  urls := hconsistent.subscriptions_eq hmem hsince
  nodup := hconsistent.listed_nodup user.id since true
  disjoint := by
    intro added hadded removed hremoved
    have hurl := hconsistent.listed_disjoint hadded hremoved
    refine ⟨?_, hurl⟩
    rintro rfl
    exact hurl rfl
  owned := by
    intro podcast hlisted
    rcases List.mem_append.mp hlisted with hadded | hremoved
    · obtain ⟨hstored, howner, _⟩ := mem_listed_iff.mp hadded
      exact ⟨hstored, howner⟩
    · obtain ⟨hstored, howner, _⟩ := mem_listed_iff.mp hremoved
      exact ⟨hstored, howner⟩

/-- The readers of subscriptions agree. In a reachable store the changes since a time are the same
for all devices of a user; the addresses of the subscriptions since then are just those of what was
added, in the same order and each once; and nothing is told on both sides, or of another user. From
a later time on no more is told than from an earlier one, unless this is a leap second that the
store keeps as the later one. Every device is listed with the number of subscriptions. -/
theorem subscription_readers_agree (hreachable : store.Reachable)
    (hmem : user ∈ store.users.entries) :
    (∀ since : Option Instant, (∀ bound ∈ since, .ofUnix (-210866803200) ≤ bound) →
      store.ReadersAgree user since (store.changesSince user.id since)) ∧
    (∀ first second : Instant, first ≤ second →
      first.nanos < 1000000000 ∨ first.stored ≤ second.stored →
        (store.changesSince user.id (some second)).added.Sublist
          (store.changesSince user.id (some first)).added ∧
        (store.changesSince user.id (some second)).removed.Sublist
          (store.changesSince user.id (some first)).removed) ∧
    (∀ since, (store.changesSince user.id since).added.Sublist
      (store.changesSince user.id none).added) ∧
    ∃ summaries urls, store.listDevices user.row.name = .ok summaries ∧
      store.subscriptions user.row.name none = .ok urls ∧
      ∀ summary ∈ summaries, summary.subscriptions = urls.length := by
  have hconsistent := hreachable.consistent
  refine ⟨fun since hsince => ?_, fun first second hle hkept => ?_, store.added_sublist user.id, ?_⟩
  · exact hconsistent.readers_tell_alike hmem fun bound hbound =>
      Instant.storable_of_le (hsince bound hbound)
  · have hstored : first.stored ≤ second.stored :=
      hkept.elim (fun hplain => Instant.stored_mono hplain hle) id
    exact ⟨listed_sublist_of_le hstored, listed_sublist_of_le hstored⟩
  · have hunbound : ∀ bound ∈ (none : Option Instant), bound.IsStorable := nofun
    unfold listDevices
    rw [hconsistent.load_user hmem]
    refine ⟨_, _, rfl, hconsistent.subscriptions_eq hmem hunbound, fun summary hsummary => ?_⟩
    obtain ⟨device, _, rfl⟩ := List.mem_map.mp hsummary
    rw [List.length_map]
    exact store.count_subscriptions_listed user.id

/-- A user with two devices subscribes to two podcasts and later ends one of the subscriptions. -/
def uploadsOfTwoDevices : List (String × Request) :=
  [("ann", .createUser "long enough" 10),
    ("ann", .replaceSubscriptions "phone" (.ofUnix 1020)
      ["http://a.example/feed", "http://b.example/feed"]),
    ("ann", .changeSubscriptions "tablet" (.ofUnix 2000) ["http://c.example/feed"]
      ["http://a.example/feed"])]

/-- Both devices are told of the same, the addresses are those of what was added, and both devices
are listed with the number of subscriptions. The time is a leap second, between two other times. -/
theorem readers_agree_on_two_devices :
    let store := (Store.empty.run uploadsOfTwoDevices).1
    let leap : Instant := ⟨1019, 1500000000, by decide⟩
    let changes := store.changesSince 1 (some leap)
    (∀ device ∈ store.devices.entries, device.row.userId = 1 →
      store.subscriptionChanges "ann" device.row.name (some leap) = .ok changes) ∧
    store.subscriptions "ann" (some leap) =
      .ok (changes.added.map fun podcast => podcast.row.url) ∧
    changes.added.Sublist (store.changesSince 1 (some (.ofUnix 1019))).added ∧
    (store.changesSince 1 (some (.ofUnix 1021))).added.Sublist changes.added ∧
    (∃ summaries urls, store.listDevices "ann" = .ok summaries ∧
      store.subscriptions "ann" none = .ok urls ∧
      ∀ summary ∈ summaries, summary.subscriptions = urls.length) ∧
    (store.devices.entries.map (·.row.name), changes.added.map (·.row.url),
        changes.removed.map (·.row.url)) =
      (["phone", "tablet"], ["http://c.example/feed"], ["http://a.example/feed"]) := by
  intro store leap changes
  have hmem : (⟨1, "ann", false, 10⟩ : Entry User) ∈ store.users.entries := by decide +kernel
  obtain ⟨hagree, hsublists, _, hdevices⟩ :=
    subscription_readers_agree (Reachable.empty.run uploadsOfTwoDevices) hmem
  have hleap := hagree (some leap) (by rintro _ ⟨⟩; decide)
  exact ⟨hleap.devices, hleap.urls, (hsublists _ leap (by decide) (.inl (by decide))).1,
    (hsublists leap _ (by decide) (.inr (by decide))).1, hdevices, by decide +kernel⟩

/-- A user subscribes just after a minute has begun. -/
def uploadAfterMinute : List (String × Request) :=
  [("ann", .createUser "long enough" 10),
    ("ann", .replaceSubscriptions "phone" ⟨60, 200000000, by decide⟩ ["http://a.example/feed"])]

/-- From the leap second before the minute on less is told than from the minute on, though that is
later: the store keeps the middle of the leap second as the middle of the second after it. -/
theorem changes_since_leap_second :
    let store := (Store.empty.run uploadAfterMinute).1
    let first : Instant := ⟨59, 1500000000, by decide⟩
    let second : Instant := .ofUnix 60
    store.Reachable ∧ .ofUnix (-210866803200) ≤ first ∧ first ≤ second ∧
      ∃ earlier later, store.subscriptionChanges "ann" "phone" (some first) = .ok earlier ∧
        store.subscriptionChanges "ann" "phone" (some second) = .ok later ∧
        ¬later.added.Sublist earlier.added := by
  intro store first second
  let feed : Entry Podcast :=
    ⟨1, 1, "http://a.example/feed", none, none, none, true, ⟨60, 200000000, by decide⟩⟩
  refine ⟨Reachable.empty.run uploadAfterMinute, by decide, by decide, ⟨[], []⟩, ⟨[feed], []⟩,
    by decide +kernel, by decide +kernel, ?_⟩
  rw [List.sublist_nil]
  exact List.cons_ne_nil feed []

end PodcastLedger.Store
