import Mathlib.Data.Set.Lattice
import Mathlib.Order.CompletePartialOrder
import PodcastLedger.Proofs.Ledger.Reachability

/-!
# Convergence of subscriptions

A device that knows the subscriptions as of some time and asks for what changed since gets to the
present subscriptions: `Store.subscriptions_converge`. The changes are read off one flag and one
time of each podcast. `Store.Tracks` is the invariant that makes this enough: a podcast of the user
that was not turned after the time still is what it was then.
-/

namespace PodcastLedger

/-- The addresses of podcasts. -/
def addresses (podcasts : List (Entry Podcast)) : Set String :=
  {url | ∃ podcast ∈ podcasts, podcast.row.url = url}

namespace Store

/-- The addresses of the podcasts that a user is subscribed to. -/
def subscribed (store : Store) (userId : Int) : Set String :=
  {url | ∃ podcast ∈ store.podcasts.entries,
    podcast.row.userId = userId ∧ podcast.row.url = url ∧ podcast.row.subscribed = true}

/-- Every podcast of a user that was not turned after a time is subscribed to exactly if it was one
of the initial subscriptions, and no podcast of these is lost. -/
structure Tracks (store : Store) (userId : Int) (since : Instant) (initial : Set String) :
    Prop where
  turned : ∀ podcast ∈ store.podcasts.entries, podcast.row.userId = userId →
    since.stored < podcast.row.updatedAt ∨
      (podcast.row.subscribed = true ↔ podcast.row.url ∈ initial)
  known : ∀ url ∈ initial,
    ∃ podcast ∈ store.podcasts.entries, podcast.row.userId = userId ∧ podcast.row.url = url

variable {store next : Store} {userId writerId : Int} {since : Instant} {initial : Set String}

/-- Two podcasts of a user with one address are the same. -/
theorem Consistent.podcast_eq (hconsistent : store.Consistent) {first second : Entry Podcast}
    (hfirst : first ∈ store.podcasts.entries) (hsecond : second ∈ store.podcasts.entries)
    (hfirstOwner : first.row.userId = userId) (hsecondOwner : second.row.userId = userId)
    (hurl : first.row.url = second.row.url) : first = second :=
  hconsistent.podcasts_unique.eq hfirst hsecond
    (Prod.ext (hfirstOwner.trans hsecondOwner.symm) hurl)

/-- A podcast is subscribed to exactly if its address is among those subscribed to. -/
theorem Consistent.subscribed_iff (hconsistent : store.Consistent) {podcast : Entry Podcast}
    (hmem : podcast ∈ store.podcasts.entries) (howner : podcast.row.userId = userId) :
    podcast.row.subscribed = true ↔ podcast.row.url ∈ store.subscribed userId := by
  constructor
  · intro hsubscribed
    exact ⟨podcast, hmem, howner, rfl, hsubscribed⟩
  · rintro ⟨other, hother, hotherOwner, hurl, hsubscribed⟩
    rw [hconsistent.podcast_eq hmem hother howner hotherOwner hurl.symm]
    exact hsubscribed

/-- At first nothing has turned. -/
theorem Consistent.tracks (hconsistent : store.Consistent) (userId : Int) (since : Instant) :
    store.Tracks userId since (store.subscribed userId) where
  turned _ hmem howner := .inr (hconsistent.subscribed_iff hmem howner)
  known := by
    rintro url ⟨podcast, hmem, howner, hurl, _⟩
    exact ⟨podcast, hmem, howner, hurl⟩

/-! ## Steps -/

/-- A new podcast is not one of the initial subscriptions. -/
theorem Tracks.insert_podcast (htracks : store.Tracks userId since initial) {url : String}
    (hnew : store.findPodcast? writerId url = none) :
    Tracks { store with podcasts := store.podcasts.insert (.fresh writerId url) } userId since
      initial where
  turned := by
    intro podcast hmem howner
    rcases Table.mem_insert.mp hmem with hold | rfl
    · exact htracks.turned podcast hold howner
    · refine .inr ⟨fun hsubscribed => absurd hsubscribed Bool.false_ne_true, fun hinitial => ?_⟩
      obtain ⟨known, hknown, hknownOwner, hurl⟩ := htracks.known _ hinitial
      have hother := Table.find_eq_none_iff.mp hnew known hknown
      rw [hknownOwner, hurl, ← howner] at hother
      simp [Podcast.fresh] at hother
  known url hinitial := by
    obtain ⟨podcast, hmem, hknown⟩ := htracks.known url hinitial
    exact ⟨podcast, Table.mem_insert.mpr (.inl hmem), hknown⟩

/-- A podcast of the user that is turned is turned after the time. -/
theorem Tracks.turn (htracks : store.Tracks userId since initial) {time : Instant}
    (hafter : writerId = userId → since.stored < time.stored) (selected : String → Bool)
    (subscribed : Bool) :
    Tracks
      { store with
        podcasts := store.podcasts.modify (isTurned writerId selected subscribed)
          (·.turn subscribed time.stored) }
      userId since initial where
  turned := by
    intro podcast hmem howner
    obtain ⟨old, hold, rfl⟩ := Table.mem_modify.mp hmem
    split
    · next hturned =>
        rw [if_pos hturned, Podcast.userId_turn] at howner
        simp only [isTurned, Bool.and_eq_true, beq_iff_eq, bne_iff_ne] at hturned
        -- Only the user's own writer turns it, and does so after `since`.
        have hlater := hafter (hturned.1.1.symm.trans howner)
        unfold Podcast.turn
        rw [if_neg hturned.2]
        exact .inl hlater
    · next hkept =>
        rw [if_neg hkept] at howner
        exact htracks.turned old hold howner
  known url hinitial := by
    obtain ⟨podcast, hmem, howner, hurl⟩ := htracks.known url hinitial
    -- Turning changes neither the owner nor the address.
    refine ⟨_, Table.mem_modify.mpr ⟨podcast, hmem, rfl⟩, ?_⟩
    split
    · exact ⟨(podcast.row.userId_turn ..).trans howner, (podcast.row.url_turn ..).trans hurl⟩
    · exact ⟨howner, hurl⟩

/-- What leaves the podcasts alone leaves the invariant alone. -/
theorem Tracks.of_podcasts_eq (htracks : store.Tracks userId since initial)
    (hpodcasts : next.podcasts = store.podcasts) : next.Tracks userId since initial where
  turned := hpodcasts ▸ htracks.turned
  known := hpodcasts ▸ htracks.known

/-- A write preserves the invariant if it turns podcasts of the user after the time only. -/
theorem Tracks.write (htracks : store.Tracks userId since initial) {time? : Option Instant}
    (hafter : writerId = userId → ∀ time ∈ time?, since.stored < time.stored)
    (hwrite : store.Write writerId time? next) : next.Tracks userId since initial := by
  cases hwrite with
  | insertPodcast _ hnew => exact htracks.insert_podcast hnew
  | turn htime selected subscribed =>
      exact htracks.turn (fun hsame => hafter hsame _ htime) selected subscribed
  | insertDevice | describeDevice | insertEpisode | identifyEpisode | insertAction
  | insertSetting | changeSetting | removeSetting => exact htracks.of_podcasts_eq rfl
  | endDevice => exact htracks.of_podcasts_eq rfl

/-- Any number of such writes preserves the invariant. -/
theorem Tracks.writes (htracks : store.Tracks userId since initial) {time? : Option Instant}
    (hafter : writerId = userId → ∀ time ∈ time?, since.stored < time.stored)
    (hwrites : Writes writerId time? store next) : next.Tracks userId since initial := by
  induction hwrites with
  | refl => exact htracks
  | tail _ hwrite ih => exact ih.write hafter hwrite

/-- The end of another account preserves the invariant. -/
theorem Tracks.without_user (htracks : store.Tracks userId since initial)
    (hother : userId ≠ writerId) : (store.withoutUser writerId).Tracks userId since initial where
  turned podcast hmem := htracks.turned podcast (Table.mem_remove.mp hmem).1
  known url hinitial := by
    obtain ⟨podcast, hmem, howner, hurl⟩ := htracks.known url hinitial
    have hkept : (podcast.row.userId == writerId) = false := by
      rw [howner]
      exact beq_eq_false_iff_ne.mpr hother
    exact ⟨podcast, Table.mem_remove.mpr ⟨hmem, hkept⟩, howner, hurl⟩

/-! ## Runs -/

/-- The request of a user leaves the account of a user standing, and turns podcasts of this user
after the time only. -/
def Preserves (name : String) (since : Instant) (userName : String) (request : Request) : Prop :=
  userName = name → request ≠ .destroyUser ∧ ∀ time ∈ request.time?, since.stored < time.stored

/-- A step that leaves the account standing keeps it and the invariant. -/
theorem Tracks.step {user : Entry User} (htracks : store.Tracks user.id since initial)
    (hconsistent : store.Consistent) (hmem : user ∈ store.users.entries) {name : String}
    {request : Request} (hpreserves : Preserves user.row.name since name request) :
    user ∈ (store.step name request).1.users.entries ∧
      (store.step name request).1.Tracks user.id since initial := by
  have heffect := store.step_effect name request
  generalize (store.step name request).1 = next at heffect ⊢
  cases heffect with
  | create => exact ⟨Table.mem_insert.mpr (.inl hmem), htracks.of_podcasts_eq rfl⟩
  | @destroy destroyed hfind =>
      obtain ⟨hdestroyed, hname⟩ := mem_of_find_user hfind
      have hother : user.id ≠ destroyed.id := by
        intro hid
        obtain rfl := store.users.eq_of_id_eq hmem hdestroyed hid
        exact (hpreserves hname.symm).1 rfl
      rw [destroy_account_eq hconsistent]
      exact ⟨Table.mem_remove.mpr ⟨hmem, beq_eq_false_iff_ne.mpr hother⟩,
        htracks.without_user hother⟩
  | nothing => exact ⟨hmem, htracks⟩
  | @writes writer _ _ hfind hwrites =>
      obtain ⟨hwriter, hname⟩ := mem_of_find_user hfind
      refine ⟨hwrites.users_eq ▸ hmem, htracks.writes (fun hid => ?_) hwrites⟩
      obtain rfl := store.users.eq_of_id_eq hwriter hmem hid
      exact (hpreserves hname.symm).2

/-- A session that leaves the account standing keeps it and the invariant. -/
theorem Tracks.run {user : Entry User} (htracks : store.Tracks user.id since initial)
    (hconsistent : store.Consistent) (hmem : user ∈ store.users.entries)
    {session : List (String × Request)}
    (hpreserves : ∀ step ∈ session, Preserves user.row.name since step.1 step.2) :
    user ∈ (store.run session).1.users.entries ∧
      (store.run session).1.Tracks user.id since initial := by
  induction session generalizing store with
  | nil => exact ⟨hmem, htracks⟩
  | cons first rest ih =>
      obtain ⟨hfirst, hrest⟩ := List.forall_mem_cons.mp hpreserves
      obtain ⟨hkept, htracked⟩ := htracks.step hconsistent hmem hfirst
      exact ih htracked (hconsistent.step first.1 first.2) hkept hrest

/-! ## Changes -/

/-- A device is told of a podcast: it turned after the time, or there is a subscription to it if
there is no time. -/
def IsConcerned (since : Option Instant) (podcast : Podcast) : Prop :=
  match since with
  | some bound => bound.stored < podcast.updatedAt
  | none => podcast.subscribed = true

/-- The addresses of the podcasts that a device is told of, by the side on which they are. -/
def told (store : Store) (userId : Int) (since : Option Instant) (subscribed : Bool) : Set String :=
  {url | ∃ podcast ∈ store.podcasts.entries, podcast.row.userId = userId ∧
    podcast.row.url = url ∧ IsConcerned since podcast.row ∧ podcast.row.subscribed = subscribed}

/-- No address is told on both sides. -/
theorem Consistent.told_disjoint (hconsistent : store.Consistent) (userId : Int)
    (since : Option Instant) :
    Disjoint (store.told userId since true) (store.told userId since false) := by
  refine Set.disjoint_left.mpr ?_
  rintro url ⟨podcast, hmem, howner, rfl, _, hsubscribed⟩ ⟨other, hother, hotherOwner, hurl, _, hended⟩
  rw [hconsistent.podcast_eq hother hmem hotherOwner howner hurl, hsubscribed] at hended
  cases hended

/-- What a device is told of leads from the initial subscriptions to the present ones. -/
theorem Tracks.told_leads (htracks : store.Tracks userId since initial)
    (hconsistent : store.Consistent) :
    (initial ∪ store.told userId (some since) true) \ store.told userId (some since) false =
      store.subscribed userId := by
  refine Set.ext fun url => ⟨?_, ?_⟩
  · rintro ⟨hinitial | ⟨podcast, hmem, howner, hurl, _, hsubscribed⟩, hkept⟩
    · obtain ⟨podcast, hmem, howner, rfl⟩ := htracks.known url hinitial
      refine ⟨podcast, hmem, howner, rfl, ?_⟩
      rcases htracks.turned podcast hmem howner with hturned | hsame
      · by_contra hended
        rw [Bool.not_eq_true] at hended
        exact hkept ⟨podcast, hmem, howner, rfl, hturned, hended⟩
      · exact hsame.mpr hinitial
    · exact ⟨podcast, hmem, howner, hurl, hsubscribed⟩
  · rintro ⟨podcast, hmem, howner, rfl, hsubscribed⟩
    constructor
    · rcases htracks.turned podcast hmem howner with hturned | hsame
      · exact .inr ⟨podcast, hmem, howner, rfl, hturned, hsubscribed⟩
      · exact .inl (hsame.mp hsubscribed)
    · rintro ⟨other, hother, hotherOwner, hurl, _, hended⟩
      rw [hconsistent.podcast_eq hother hmem hotherOwner howner hurl, hsubscribed] at hended
      cases hended

/-- Without a time a device is told of the subscriptions. -/
theorem told_none_true (store : Store) (userId : Int) :
    store.told userId none true = store.subscribed userId := by
  refine Set.ext fun url => ⟨?_, ?_⟩
  · rintro ⟨podcast, hmem, howner, hurl, _, hsubscribed⟩
    exact ⟨podcast, hmem, howner, hurl, hsubscribed⟩
  · rintro ⟨podcast, hmem, howner, hurl, hsubscribed⟩
    exact ⟨podcast, hmem, howner, hurl, hsubscribed, hsubscribed⟩

/-- A device of a user gets the podcasts that it is to be told of, and without a time none that is
to be removed. -/
theorem Consistent.subscription_changes (hconsistent : store.Consistent) {user : Entry User}
    (hmem : user ∈ store.users.entries) {name : String} {device : Entry Device}
    (hdevice : store.findDevice? user.id name = some device) {since : Option Instant}
    (hsince : ∀ bound ∈ since, bound.IsStorable) :
    ∃ changes, store.subscriptionChanges user.row.name name since = .ok changes ∧
      addresses changes.added = store.told user.id since true ∧
      addresses changes.removed = store.told user.id since false ∧
      (since = none → changes.removed = []) := by
  unfold subscriptionChanges requireBound
  rw [hconsistent.load_user hmem]
  simp only [bind, Except.bind, hconsistent.load_device hdevice, require_of hsince,
    List.partition_eq_filter_filter]
  refine ⟨_, rfl, Set.ext fun url => ?_, Set.ext fun url => ?_, ?_⟩
  · cases since <;> simp [addresses, told, IsConcerned, isAfter] <;> grind
  · cases since <;> simp [addresses, told, IsConcerned, isAfter] <;> grind
  · rintro rfl
    simp +contextual

/-- Sync converges. Let a user of a reachable store have some subscriptions, and let any session
follow that leaves the account standing and in which uploads of subscriptions of the user are later
than a time. Then a device of the user that asks for the changes since that time is told of what
leads from the earlier subscriptions to the present ones, and a device that gives no time is told of
the present ones. -/
theorem subscriptions_converge (hreachable : store.Reachable) {user : Entry User}
    (hmem : user ∈ store.users.entries) (hsince : since.IsStorable)
    {session : List (String × Request)}
    (hpreserves : ∀ step ∈ session, Preserves user.row.name since step.1 step.2)
    {name : String} {device : Entry Device}
    (hdevice : (store.run session).1.findDevice? user.id name = some device) :
    (∃ changes,
      (store.run session).1.subscriptionChanges user.row.name name (some since) = .ok changes ∧
      Disjoint (addresses changes.added) (addresses changes.removed) ∧
      (store.subscribed user.id ∪ addresses changes.added) \ addresses changes.removed =
        (store.run session).1.subscribed user.id) ∧
    ∃ changes,
      (store.run session).1.subscriptionChanges user.row.name name none = .ok changes ∧
      addresses changes.added = (store.run session).1.subscribed user.id ∧
      changes.removed = [] := by
  have hlast := (hreachable.run session).consistent
  obtain ⟨hkept, htracks⟩ :=
    (hreachable.consistent.tracks user.id since).run hreachable.consistent hmem hpreserves
  have hbound : ∀ bound ∈ some since, bound.IsStorable := by simpa using hsince
  have hunbound : ∀ bound ∈ (none : Option Instant), bound.IsStorable := by simp
  obtain ⟨changes, hchanges, hadded, hremoved, _⟩ :=
    hlast.subscription_changes hkept hdevice hbound
  obtain ⟨all, hall, hallAdded, _, hnone⟩ := hlast.subscription_changes hkept hdevice hunbound
  refine ⟨⟨changes, hchanges, ?_, ?_⟩, all, hall, ?_, hnone rfl⟩
  · rw [hadded, hremoved]
    exact hlast.told_disjoint user.id (some since)
  · rw [hadded, hremoved]
    exact htracks.told_leads hlast
  · rw [hallAdded, told_none_true]

/-- A user uploads a subscription. -/
def firstUpload : List (String × Request) :=
  [("ann", .createUser "long enough" 10),
    ("ann", .replaceSubscriptions "phone" (.ofUnix 1000) ["http://a.example/feed"])]

/-- The user exchanges it for another one, while a second user comes and subscribes as well. -/
def laterUploads : List (String × Request) :=
  [("bob", .createUser "long enough" 10),
    ("ann", .changeSubscriptions "phone" (.ofUnix 2000) ["b.example/feed"]
      ["http://a.example/feed"]),
    ("bob", .replaceSubscriptions "phone" (.ofUnix 500) ["http://a.example/feed"])]

/-- The changes since the first upload lead from what it left to what is there after the later
ones. -/
theorem changes_since_first_upload :
    let before := (Store.empty.run firstUpload).1
    let last := (before.run laterUploads).1
    before.subscriptions "ann" none = .ok ["http://a.example/feed"] ∧
      last.subscriptions "ann" none = .ok ["http://b.example/feed"] ∧
      ∃ changes, last.subscriptionChanges "ann" "phone" (some (.ofUnix 1000)) = .ok changes ∧
        Disjoint (addresses changes.added) (addresses changes.removed) ∧
        (before.subscribed 1 ∪ addresses changes.added) \ addresses changes.removed =
          last.subscribed 1 := by
  have hmem : (⟨1, "ann", false, 10⟩ : Entry User) ∈
      (Store.empty.run firstUpload).1.users.entries := by decide +kernel
  have hdevice : ((Store.empty.run firstUpload).1.run laterUploads).1.findDevice? 1 "phone" =
      some ⟨1, 1, "phone", "", .other⟩ := by decide +kernel
  have hpreserves : ∀ step ∈ laterUploads,
      Preserves "ann" (.ofUnix 1000) step.1 step.2 := by
    intro step hstep hname
    simp only [laterUploads, List.mem_cons, List.not_mem_nil, or_false] at hstep
    rcases hstep with rfl | rfl | rfl
    · exact absurd hname (by decide)
    · refine ⟨Request.noConfusion, fun time htime => ?_⟩
      cases htime
      decide
    · exact absurd hname (by decide)
  exact ⟨by decide +kernel, by decide +kernel,
    (subscriptions_converge (Reachable.empty.run firstUpload) hmem (by decide) hpreserves
      hdevice).1⟩

end Store

end PodcastLedger
