import PodcastLedger.Proofs.Isolation.Noninterference
import PodcastLedger.Proofs.Ledger.Evolution
import PodcastLedger.Proofs.Sync.Rows

/-!
# Subscriptions are independent

Subscriptions do not depend on the log, the settings and the registry of devices, although the log
puts podcasts into the catalog that subscriptions adopt later. Two stores are `Store.Alike` if they
have the same users and every address reads alike in both. Requests that write elsewhere keep them
so on one side alone (`Store.Alike.step_left`), and all other requests keep them so on both sides
and are answered alike (`Store.Alike.step`). By induction a session and what is left of it when such
requests are omitted are answered alike: `Store.subscriptions_independent`.
-/

namespace PodcastLedger

/-- What a podcast shows depends on its row only. -/
theorem map_shown_podcast (podcasts : List (Entry Podcast)) :
    podcasts.map Podcast.shown =
      (podcasts.map Entry.row).map fun row => ⟨0, { row with userId := 0 }⟩ := by
  rw [List.map_map]
  rfl

/-- The request writes to the log, the settings or the registry of devices, and nowhere else but
into the catalog. -/
def Request.sparesSubscriptions : Request → Bool
  | .addActions _ => true
  | .saveSettings _ _ _ => true
  | .registerDevice _ => true
  | .updateDevice _ _ _ => true
  | .destroyDevice _ => true
  | _ => false

namespace Store

variable {store other : Store} {userId : Int} {urls : List String} {selected : String → Bool}
  {subscribed : Bool} {name device : String}

/-- The stores have the same users, and every address of every user is read alike in both. -/
structure Alike (store other : Store) : Prop where
  consistent : store.Consistent
  other_consistent : other.Consistent
  users : store.users = other.users
  podcasts : ∀ userId url, store.podcastAt userId url = other.podcastAt userId url

/-- A store is like itself. -/
theorem Alike.refl (hconsistent : store.Consistent) : Alike store store :=
  ⟨hconsistent, hconsistent, rfl, fun _ _ => rfl⟩

/-- Likeness goes both ways. -/
theorem Alike.symm (halike : Alike store other) : Alike other store :=
  ⟨halike.other_consistent, halike.consistent, halike.users.symm,
    fun userId url => (halike.podcasts userId url).symm⟩

/-! ## Listings -/

/-- The same rows are listed, if nothing is wanted that is not in both catalogs. -/
theorem Alike.rows_where_perm (halike : Alike store other) {wanted : Podcast → Bool}
    (hknown : ∀ url, wanted (.fresh userId url) = true →
      url ∈ store.catalogued userId ∧ url ∈ other.catalogued userId) :
    (store.rowsWhere userId wanted).Perm (other.rowsWhere userId wanted) := by
  refine (List.perm_ext_iff_of_nodup (halike.consistent.nodup_rows_where wanted)
    (halike.other_consistent.nodup_rows_where wanted)).mpr fun row => ?_
  rw [halike.consistent.mem_rows_where fun url hwanted => (hknown url hwanted).1,
    halike.other_consistent.mem_rows_where fun url hwanted => (hknown url hwanted).2]
  simp only [halike.podcasts]

/-- The same rows are listed, if nothing is wanted that was never subscribed to. -/
theorem Alike.rows_where_perm_of_fresh (halike : Alike store other) {wanted : Podcast → Bool}
    (hfresh : ∀ url, wanted (.fresh userId url) = false) :
    (store.rowsWhere userId wanted).Perm (other.rowsWhere userId wanted) :=
  halike.rows_where_perm fun url hwanted => absurd hwanted (by simp [hfresh url])

/-- The same addresses are subscribed to. -/
theorem Alike.subscriptions (halike : Alike store other) (name : String) (since : Option Instant) :
    Agree List.Perm (store.subscriptions name since) (other.subscriptions name since) := by
  rw [subscriptions_eq, subscriptions_eq, load_user_of_users_eq halike.users]
  refine Agree.after fun user => Agree.after fun _ => ?_
  exact (halike.rows_where_perm_of_fresh fun _ => rfl).map Podcast.url

/-- The same number of subscriptions is counted. -/
theorem Alike.count_subscriptions (halike : Alike store other) (userId : Int) :
    store.countSubscriptions userId = other.countSubscriptions userId := by
  rw [count_subscriptions_eq, count_subscriptions_eq]
  exact (halike.rows_where_perm_of_fresh fun _ => rfl).length_eq

/-- The podcasts are the same but for their ids and their order. -/
def SamePodcasts (first second : List (Entry Podcast)) : Prop :=
  (first.map Podcast.shown).Perm (second.map Podcast.shown)

/-- Podcasts with the same rows are the same. -/
theorem same_podcasts_of_rows {first second : List (Entry Podcast)}
    (hrows : (first.map Entry.row).Perm (second.map Entry.row)) : SamePodcasts first second := by
  unfold SamePodcasts
  rw [map_shown_podcast, map_shown_podcast]
  exact hrows.map _

/-- The changes since a time are the same, unless the time is before the epoch. -/
theorem Alike.subscription_changes (halike : Alike store other) {since : Option Instant}
    (hsince : ∀ bound ∈ since, .epoch ≤ bound) {changes others : SubscriptionChanges}
    (hfirst : store.subscriptionChanges name device since = .ok changes)
    (hsecond : other.subscriptionChanges name device since = .ok others) :
    SamePodcasts changes.added others.added ∧ SamePodcasts changes.removed others.removed := by
  obtain ⟨user, huser, hadded, hremoved⟩ := subscription_changes_rows hfirst
  obtain ⟨_, hother, hotherAdded, hotherRemoved⟩ := subscription_changes_rows hsecond
  rw [load_user_of_users_eq halike.users, hother] at huser
  cases huser
  constructor
  · refine same_podcasts_of_rows ?_
    rw [hadded, hotherAdded]
    exact halike.rows_where_perm_of_fresh fun _ => by rw [concerns_fresh hsince, Bool.false_and]
  · refine same_podcasts_of_rows ?_
    rw [hremoved, hotherRemoved]
    exact halike.rows_where_perm_of_fresh fun _ => by rw [concerns_fresh hsince, Bool.false_and]

/-! ## Uploads -/

/-- A device is registered on both sides or on none. -/
theorem Alike.register_device (halike : Alike store other) (userId : Int) (device : String) :
    Agree (fun first second => Alike first.1 second.1) (store.registerDevice userId device)
      (other.registerDevice userId device) := by
  unfold registerDevice insertDevice
  refine (Agree.refl _).bind fun _ _ hvalid _ _ => ?_
  refine (agree_require (by rw [halike.users]) .insertDevice).bind fun _ _ hpass hpass' _ => ?_
  have hname : IsName device := validateName_eq_ok_iff.mp hvalid
  obtain ⟨_, _, huser⟩ := require_eq_ok_iff.mp hpass
  obtain ⟨_, _, hother⟩ := require_eq_ok_iff.mp hpass'
  have hafter : Alike (store.withDevice userId device) (other.withDevice userId device) :=
    { consistent := halike.consistent.with_device huser hname
      other_consistent := halike.other_consistent.with_device hother hname
      users := by rw [users_with_device, users_with_device, halike.users]
      podcasts := fun ownerId url => by
        rw [podcast_at_of_podcasts_eq podcasts_with_device,
          podcast_at_of_podcasts_eq podcasts_with_device, halike.podcasts] }
  unfold withDevice at hafter
  cases hfirst : store.findDevice? userId device <;>
    cases hsecond : other.findDevice? userId device <;>
    · rw [hfirst, hsecond] at hafter
      exact hafter

/-- A podcast is catalogued on both sides or on none. -/
theorem Alike.insert_podcast (halike : Alike store other) (userId : Int) (url : String) :
    Agree (fun first second => Alike first.1 second.1) (store.insertPodcast userId url)
      (other.insertPodcast userId url) := by
  unfold insertPodcast
  refine (agree_require (by rw [halike.users]) .insertPodcast).bind fun _ _ hpass hpass' _ => ?_
  obtain ⟨_, _, huser⟩ := require_eq_ok_iff.mp hpass
  obtain ⟨_, _, hother⟩ := require_eq_ok_iff.mp hpass'
  have hafter : Alike (store.withPodcast userId url) (other.withPodcast userId url) :=
    { consistent := halike.consistent.with_podcast huser url
      other_consistent := halike.other_consistent.with_podcast hother url
      users := by rw [users_with_podcast, users_with_podcast, halike.users]
      podcasts := fun ownerId url => by
        rw [podcast_at_with_podcast, podcast_at_with_podcast, halike.podcasts] }
  unfold withPodcast at hafter
  cases hfirst : store.findPodcast? userId url <;>
    cases hsecond : other.findPodcast? userId url <;>
    · rw [hfirst, hsecond] at hafter
      exact hafter

/-- Podcasts are catalogued on both sides or on none. -/
theorem Alike.insert_podcasts (halike : Alike store other) (userId : Int) (urls : List String) :
    Agree Alike (store.insertPodcasts userId urls) (other.insertPodcasts userId urls) := by
  induction urls generalizing store other with
  | nil => exact halike
  | cons url urls ih =>
      unfold insertPodcasts
      exact (halike.insert_podcast userId url).bind fun _ _ _ _ hinserted => ih hinserted

/-- Of the selected addresses of a user none is to be subscribed to that is not in both catalogs. -/
def Known (store other : Store) (userId : Int) (selected : String → Bool) (subscribed : Bool) :
    Prop :=
  subscribed = true → ∀ url, selected url = true →
    url ∈ store.catalogued userId ∧ url ∈ other.catalogued userId

/-- Nothing is to be subscribed to where subscriptions are to end. -/
theorem known_of_end : Known store other userId selected false :=
  fun hadded => absurd hadded Bool.false_ne_true

/-- What was catalogued on both sides is in both catalogs. -/
theorem known_of_insert_podcasts {next otherNext : Store}
    (hfirst : store.insertPodcasts userId urls = .ok next)
    (hsecond : other.insertPodcasts userId urls = .ok otherNext) :
    Known next otherNext userId urls.contains true := by
  intro _ url hadded
  obtain ⟨_, rfl⟩ := insert_podcasts_iff.mp hfirst
  obtain ⟨_, rfl⟩ := insert_podcasts_iff.mp hsecond
  rw [catalogued_with_podcasts, catalogued_with_podcasts]
  exact ⟨.inr (List.contains_iff_mem.mp hadded), .inr (List.contains_iff_mem.mp hadded)⟩

/-- The same rows are reported of a turn in the same order. -/
theorem Alike.turned_rows_eq (halike : Alike store other)
    (hknown : Known store other userId selected subscribed) (time : Instant) :
    (store.turnedRows userId selected subscribed time).map Entry.row =
      (other.turnedRows userId selected subscribed time).map Entry.row := by
  let wanted := fun row : Podcast => selected row.url && row.subscribed != subscribed
  have hlisted : (store.rowsWhere userId wanted).Perm (other.rowsWhere userId wanted) := by
    refine halike.rows_where_perm fun url hwanted => ?_
    obtain ⟨hselected, hside⟩ := Bool.and_eq_true_iff.mp hwanted
    have hadded : subscribed = true := by simpa [Podcast.fresh] using hside
    exact hknown hadded url hselected
  have hperm : ((store.turnedRows userId selected subscribed time).map Entry.row).Perm
      ((other.turnedRows userId selected subscribed time).map Entry.row) :=
    (turned_rows_perm.trans (hlisted.map _)).trans turned_rows_perm.symm
  -- Both reports ascend strictly by addresses, so they cannot differ in the order either.
  have hascending : ∀ {reported : List (Entry Podcast)},
      (reported.Pairwise fun first second => first.row.url < second.row.url) →
        (reported.map Entry.row).Pairwise fun first second => first.url < second.url :=
    fun hreported => List.pairwise_map.mpr hreported
  refine hperm.eq_of_pairwise (fun first second _ _ hlt hgt => ?_)
    (hascending halike.consistent.turned_rows_ascending)
    (hascending halike.other_consistent.turned_rows_ascending)
  exact absurd (String.lt_trans hlt hgt) (String.lt_irrefl _)

/-- Podcasts are turned on both sides or on none, and the same rows are reported. -/
theorem Alike.turn_podcasts (halike : Alike store other)
    (hknown : Known store other userId selected subscribed) (time : Instant) :
    Agree
      (fun first second =>
        Alike first.1 second.1 ∧ first.2.map Entry.row = second.2.map Entry.row)
      (store.turnPodcasts userId selected subscribed time)
      (other.turnPodcasts userId selected subscribed time) := by
  have hrows := halike.turned_rows_eq hknown time
  have hnil : store.turnedRows userId selected subscribed time = [] ↔
      other.turnedRows userId selected subscribed time = [] := by
    rw [← List.map_eq_nil_iff, hrows, List.map_eq_nil_iff]
  have hturned : Alike (store.turned userId selected subscribed time)
      (other.turned userId selected subscribed time) :=
    { consistent := halike.consistent.after_turn
      other_consistent := halike.other_consistent.after_turn
      users := halike.users
      podcasts := fun ownerId url => by
        rw [podcast_at_turned fun hadded url hselected => (hknown hadded url hselected).1,
          podcast_at_turned fun hadded url hselected => (hknown hadded url hselected).2,
          halike.podcasts] }
  rw [turn_podcasts_eq, turn_podcasts_eq]
  unfold reporting
  simp only [hnil]
  split
  · exact ⟨hturned, hrows⟩
  · exact rfl

/-- The answers to an upload show the same if the same rows are reported. -/
theorem shown_update_of_rows {update others : SubscriptionUpdate}
    (hsubscribed : update.subscribed.map Entry.row = others.subscribed.map Entry.row)
    (hunsubscribed : update.unsubscribed.map Entry.row = others.unsubscribed.map Entry.row)
    (htimestamp : update.timestamp = others.timestamp)
    (hrewrites : update.rewrites = others.rewrites) :
    SameShown (.subscriptionUpdate update) (.subscriptionUpdate others) := by
  unfold SameShown Answer.shown
  dsimp only
  rw [map_shown_podcast, map_shown_podcast, map_shown_podcast, map_shown_podcast, hsubscribed,
    hunsubscribed, htimestamp, hrewrites]

/-- The list of subscriptions is replaced on both sides alike. -/
theorem Alike.replace_subscriptions (halike : Alike store other) (name device : String)
    (timestamp : Instant) (raws : List String) :
    Agree (fun first second => Alike first.1 second.1 ∧
        SameShown (.subscriptionUpdate first.2) (.subscriptionUpdate second.2))
      (store.replaceSubscriptions name device timestamp raws)
      (other.replaceSubscriptions name device timestamp raws) := by
  unfold replaceSubscriptions
  rw [load_user_of_users_eq halike.users]
  refine Agree.after fun _ => Agree.after fun user => ?_
  refine (halike.register_device user.id device).bind fun _ _ _ _ hregistered => ?_
  refine (hregistered.turn_podcasts known_of_end timestamp).bind fun _ _ _ _ hended => ?_
  refine (hended.1.insert_podcasts user.id _).bind fun _ _ hfirst hsecond hinserted => ?_
  have hknown := known_of_insert_podcasts hfirst hsecond
  refine (hinserted.turn_podcasts hknown timestamp).bind fun _ _ _ _ hadded => ?_
  exact ⟨hadded.1, shown_update_of_rows hadded.2 hended.2 rfl rfl⟩

/-- Subscriptions are added and ended on both sides alike. -/
theorem Alike.change_subscriptions (halike : Alike store other) (name device : String)
    (timestamp : Instant) (add remove : List String) :
    Agree (fun first second => Alike first.1 second.1 ∧
        SameShown (.subscriptionUpdate first.2) (.subscriptionUpdate second.2))
      (store.changeSubscriptions name device timestamp add remove)
      (other.changeSubscriptions name device timestamp add remove) := by
  unfold changeSubscriptions
  rw [load_user_of_users_eq halike.users]
  refine Agree.after fun _ => ?_
  dsimp only
  cases (Web.canonicalAll add).find? (Web.canonicalAll remove).contains with
  | some url => exact rfl
  | none =>
      refine Agree.after fun user => ?_
      refine (halike.register_device user.id device).bind fun _ _ _ _ hregistered => ?_
      refine (hregistered.insert_podcasts user.id _).bind fun _ _ hfirst hsecond hinserted => ?_
      have hknown := known_of_insert_podcasts hfirst hsecond
      refine (hinserted.turn_podcasts hknown timestamp).bind fun _ _ _ _ hadded => ?_
      refine (hadded.1.turn_podcasts known_of_end timestamp).bind fun _ _ _ _ hended => ?_
      exact ⟨hended.1, shown_update_of_rows hadded.2 hended.2 rfl rfl⟩

/-! ## Accounts -/

/-- An account is created on both sides or on none. -/
theorem Alike.create_user (halike : Alike store other) (name password : String)
    (workFactor : Nat) :
    Agree (fun first second => Alike first.1 second.1)
      (store.createUser name password workFactor) (other.createUser name password workFactor) := by
  unfold createUser insertUser
  rw [find_user_of_users_eq halike.users]
  refine Agree.after fun _ => ?_
  split
  · exact rfl
  · split
    · exact rfl
    · split
      · exact rfl
      · next htaken =>
          have hfree : other.findUser? name = none := by simpa using htaken
          refine (agree_require (by rw [halike.users]) .insertUser).bind fun _ _ hpass _ _ => ?_
          obtain ⟨hgiven, hbindable, _⟩ := require_eq_ok_iff.mp hpass
          exact
            { consistent := halike.consistent.insert_user hgiven hbindable
                (find_user_of_users_eq halike.users name ▸ hfree)
              other_consistent := halike.other_consistent.insert_user hgiven hbindable hfree
              users := by rw [halike.users]
              podcasts := halike.podcasts }

/-- An account ends on both sides or on none. -/
theorem Alike.destroy_user (halike : Alike store other) (name : String) :
    Agree (fun first second => Alike first.1 second.1) (store.destroyUser name)
      (other.destroyUser name) := by
  unfold destroyUser
  rw [load_user_of_users_eq halike.users]
  refine Agree.after fun user => ?_
  show Alike (store.destroyAccount user.id).1 (other.destroyAccount user.id).1
  rw [destroy_account_eq halike.consistent, destroy_account_eq halike.other_consistent]
  exact
    { consistent := halike.consistent.without_user user.id
      other_consistent := halike.other_consistent.without_user user.id
      users := congrArg (Table.remove · fun entry => entry.id == user.id) halike.users
      podcasts := fun userId url => by
        rw [podcast_at_without_user, podcast_at_without_user, halike.podcasts] }

/-! ## Steps -/

/-- What is listed is the same but for the order, the ids of podcasts and the devices there are. -/
inductive SameListing : Answer → Answer → Prop where
  | urls {urls others : List String} (hurls : urls.Perm others) :
      SameListing (.urls urls) (.urls others)
  | devices {summaries others : List DeviceSummary} {count : Nat}
      (hcount : ∀ summary ∈ summaries ++ others, summary.subscriptions = count) :
      SameListing (.devices summaries) (.devices others)
  | changes {changes others : SubscriptionChanges}
      (hadded : SamePodcasts changes.added others.added)
      (hremoved : SamePodcasts changes.removed others.removed) :
      SameListing (.subscriptionChanges changes) (.subscriptionChanges others)

/-- The answers to a request are the same as far as subscriptions go. The changes since a time are
answered only to devices that are known, and are the same unless the time is before the epoch. -/
def AnsweredAlike (request : Request) (first second : Except Failure Answer) : Prop :=
  match request with
  | .replaceSubscriptions _ _ _ => shownAnswer first = shownAnswer second
  | .changeSubscriptions _ _ _ _ => shownAnswer first = shownAnswer second
  | .subscriptions _ => Agree SameListing first second
  | .listDevices => Agree SameListing first second
  | .subscriptionChanges _ since => (∀ bound ∈ since, .epoch ≤ bound) →
      ∀ answer other, first = .ok answer → second = .ok other → SameListing answer other
  | _ => True

/-- A request that is neither about an account nor an upload of subscriptions may be made on one
side alone. -/
theorem Alike.step_left (halike : Alike store other) (name : String) {request : Request}
    (haccount : ¬ request.OfAccount) (htime : request.time? = none) :
    Alike (store.step name request).1 other := by
  have heffect := store.step_effect name request
  have hconsistent := halike.consistent.step name request
  generalize (store.step name request).1 = next at heffect hconsistent ⊢
  cases heffect with
  | create => exact absurd trivial haccount
  | destroy => exact absurd trivial haccount
  | nothing => exact halike
  | writes _ hwrites =>
      rw [htime] at hwrites
      exact
        { consistent := hconsistent
          other_consistent := halike.other_consistent
          users := hwrites.users_eq.trans halike.users
          podcasts := fun userId url => hwrites.podcast_at_eq.trans (halike.podcasts userId url) }

/-- It may be made on both sides as well. -/
theorem Alike.step_both (halike : Alike store other) (name : String) {request : Request}
    (haccount : ¬ request.OfAccount) (htime : request.time? = none) :
    Alike (store.step name request).1 (other.step name request).1 :=
  ((halike.step_left name haccount htime).symm.step_left name haccount htime).symm

/-- A request that only reads is answered with what is read. -/
theorem answer_of_read {Result : Type} {toAnswer : Result → Answer}
    {outcome : Except Failure Result} {request : Request}
    (hread : store.answer name request = store.read toAnswer outcome) :
    (store.step name request).2 = outcome.map toAnswer := by
  unfold Store.step
  rw [hread]
  cases outcome <;> rfl

/-- The subscriptions are listed alike. -/
theorem Alike.list_subscriptions (halike : Alike store other) (name : String)
    (since : Option Instant) :
    Agree SameListing (store.step name (.subscriptions since)).2
      (other.step name (.subscriptions since)).2 := by
  rw [answer_of_read rfl, answer_of_read rfl]
  exact (halike.subscriptions name since).map fun _ _ hurls => .urls hurls

/-- The devices are listed with the same number of subscriptions. -/
theorem Alike.list_devices (halike : Alike store other) (name : String) :
    Agree SameListing (store.step name .listDevices).2 (other.step name .listDevices).2 := by
  have hcounts : Agree
      (fun summaries others => ∃ count, ∀ summary ∈ summaries ++ others,
        DeviceSummary.subscriptions summary = count)
      (store.listDevices name) (other.listDevices name) := by
    unfold listDevices
    rw [load_user_of_users_eq halike.users]
    refine Agree.after fun user => ⟨other.countSubscriptions user.id, fun summary hmem => ?_⟩
    rw [halike.count_subscriptions] at hmem
    rcases List.mem_append.mp hmem with hmem | hmem <;>
    · obtain ⟨_, _, rfl⟩ := List.mem_map.mp hmem
      rfl
  rw [answer_of_read rfl, answer_of_read rfl]
  exact hcounts.map fun _ _ ⟨_, hcount⟩ => .devices hcount

/-- The changes since a time are listed alike where they are listed. -/
theorem Alike.list_changes (halike : Alike store other) {since : Option Instant}
    (hsince : ∀ bound ∈ since, .epoch ≤ bound) {first second : Answer}
    (hfirst : (store.step name (.subscriptionChanges device since)).2 = .ok first)
    (hsecond : (other.step name (.subscriptionChanges device since)).2 = .ok second) :
    SameListing first second := by
  rw [answer_of_read rfl] at hfirst hsecond
  obtain ⟨changes, hchanges, rfl⟩ := map_eq_ok_iff.mp hfirst
  obtain ⟨others, hothers, rfl⟩ := map_eq_ok_iff.mp hsecond
  obtain ⟨hadded, hremoved⟩ := halike.subscription_changes hsince hchanges hothers
  exact .changes hadded hremoved

/-- A request that writes on both sides, with outcomes that agree, keeps the stores alike. -/
theorem Alike.step_of_write {Result : Type} {toAnswer : Result → Answer}
    {first second : Except Failure (Store × Result)} (halike : Alike store other) (name : String)
    (request : Request) (related : Answer → Answer → Prop)
    (hfirst : store.answer name request = write toAnswer first)
    (hsecond : other.answer name request = write toAnswer second)
    (hagree : Agree (fun a b => Alike a.1 b.1 ∧ related (toAnswer a.2) (toAnswer b.2))
      first second) :
    Alike (store.step name request).1 (other.step name request).1 ∧
      Agree related (store.step name request).2 (other.step name request).2 := by
  refine agree_step halike ?_
  rw [hfirst, hsecond]
  exact hagree.map fun _ _ => id

/-- A request that is made on both sides keeps the stores alike and is answered alike. -/
theorem Alike.step (halike : Alike store other) (name : String) (request : Request) :
    Alike (store.step name request).1 (other.step name request).1 ∧
      AnsweredAlike request (store.step name request).2 (other.step name request).2 := by
  cases request with
  | createUser password workFactor =>
      have hcreated := halike.create_user name password workFactor
      obtain ⟨hafter, _⟩ := halike.step_of_write name (.createUser password workFactor)
        (fun _ _ => True) rfl rfl (hcreated.mono fun _ _ hafter => ⟨hafter, trivial⟩)
      exact ⟨hafter, trivial⟩
  | destroyUser =>
      have hdestroyed := halike.destroy_user name
      obtain ⟨hafter, _⟩ := halike.step_of_write name .destroyUser (fun _ _ => True) rfl rfl
        (hdestroyed.mono fun _ _ hafter => ⟨hafter, trivial⟩)
      exact ⟨hafter, trivial⟩
  | replaceSubscriptions device timestamp raws =>
      have hreplaced := halike.replace_subscriptions name device timestamp raws
      obtain ⟨hafter, hshown⟩ := halike.step_of_write name
        (.replaceSubscriptions device timestamp raws) SameShown rfl rfl hreplaced
      exact ⟨hafter, shown_answer_eq hshown⟩
  | changeSubscriptions device timestamp add remove =>
      have hchanged := halike.change_subscriptions name device timestamp add remove
      obtain ⟨hafter, hshown⟩ := halike.step_of_write name
        (.changeSubscriptions device timestamp add remove) SameShown rfl rfl hchanged
      exact ⟨hafter, shown_answer_eq hshown⟩
  | subscriptions since =>
      exact ⟨halike.step_both name id rfl, halike.list_subscriptions name since⟩
  | listDevices => exact ⟨halike.step_both name id rfl, halike.list_devices name⟩
  | subscriptionChanges device since =>
      exact ⟨halike.step_both name id rfl, fun hsince _ _ => halike.list_changes hsince⟩
  | _ => exact ⟨halike.step_both name id rfl, trivial⟩

/-! ## Sessions -/

/-- What is left of a session when some of its requests that write elsewhere are omitted. -/
inductive Omits : List (String × Request) → List (String × Request) → Prop where
  | nil : Omits [] []
  | keep {session kept : List (String × Request)} (step : String × Request)
      (homits : Omits session kept) : Omits (step :: session) (step :: kept)
  | skip {session kept : List (String × Request)} {step : String × Request}
      (hspares : step.2.sparesSubscriptions = true) (homits : Omits session kept) :
      Omits (step :: session) kept

/-- The steps of a session with their answers, but for those that write elsewhere and so may be
omitted. -/
def essential (session : List (String × Request)) (answers : List (Except Failure Answer)) :
    List ((String × Request) × Except Failure Answer) :=
  (session.zip answers).filter fun step => !step.1.2.sparesSubscriptions

/-- The same request of the same user is answered alike. -/
def SameStep (first second : (String × Request) × Except Failure Answer) : Prop :=
  first.1 = second.1 ∧ AnsweredAlike first.1.2 first.2 second.2

/-- A request that writes elsewhere is neither about an account nor an upload. -/
theorem not_of_account_of_spares {request : Request}
    (hspares : request.sparesSubscriptions = true) :
    ¬ request.OfAccount ∧ request.time? = none := by
  cases request <;> first | exact ⟨id, rfl⟩ | cases hspares

/-- A session and what is left of it are answered alike from stores that are alike. -/
theorem Alike.run (halike : Alike store other) {session kept : List (String × Request)}
    (homits : Omits session kept) :
    List.Forall₂ SameStep (essential session (store.run session).2)
      (essential kept (other.run kept).2) := by
  induction homits generalizing store other with
  | nil => exact .nil
  | keep step homits ih =>
      obtain ⟨name, request⟩ := step
      obtain ⟨hafter, hsame⟩ := halike.step name request
      rw [answers_run_cons, answers_run_cons]
      unfold essential
      rw [List.zip_cons_cons, List.zip_cons_cons, List.filter_cons, List.filter_cons]
      dsimp only
      split
      · exact .cons ⟨rfl, hsame⟩ (ih hafter)
      · exact ih hafter
  | @skip _ _ step hspares homits ih =>
      obtain ⟨name, request⟩ := step
      obtain ⟨haccount, htime⟩ := not_of_account_of_spares hspares
      rw [answers_run_cons]
      unfold essential
      rw [List.zip_cons_cons, List.filter_cons_of_neg (by simpa using hspares)]
      exact ih (halike.step_left name haccount htime)

/-- Subscriptions do not depend on the log, the settings and the registry of devices. Whichever of
the requests that write there are omitted from a session, every upload of subscriptions is answered
as before, the same addresses are subscribed to, every device shows the same number of them, and the
changes since a time are the same where both sessions list them, unless the time is before the
epoch. -/
theorem subscriptions_independent {session kept : List (String × Request)}
    (homits : Omits session kept) :
    List.Forall₂ SameStep (essential session (Store.empty.run session).2)
      (essential kept (Store.empty.run kept).2) :=
  (Alike.refl consistent_empty).run homits

/-- A podcast that was listened to first is subscribed to second, between requests about devices and
settings. -/
def listenedFirst : List (String × Request) :=
  [("ann", .createUser "long enough" 10), ("ann", .registerDevice "tablet"),
    ("ann", .addActions [⟨"download", some "tablet", "http://b.example/1", none,
      "http://b.example/feed", none, none, .ofUnix 1000, none⟩]),
    ("ann", .replaceSubscriptions "phone" (.ofUnix 500) ["http://a.example/feed"]),
    ("ann", .saveSettings ⟨"account", none, none, none⟩ [("theme", "dark")] []),
    ("ann", .updateDevice "phone" (some "Pocket") none),
    ("ann", .changeSubscriptions "phone" (.ofUnix 600) ["http://b.example/feed"] []),
    ("ann", .destroyDevice "tablet"), ("ann", .subscriptions none), ("ann", .listDevices),
    ("ann", .subscriptionChanges "phone" (some .epoch))]

/-- The same without what does not concern subscriptions. -/
def neverListened : List (String × Request) :=
  [("ann", .createUser "long enough" 10),
    ("ann", .replaceSubscriptions "phone" (.ofUnix 500) ["http://a.example/feed"]),
    ("ann", .changeSubscriptions "phone" (.ofUnix 600) ["http://b.example/feed"] []),
    ("ann", .subscriptions none), ("ann", .listDevices),
    ("ann", .subscriptionChanges "phone" (some .epoch))]

/-- The podcasts have other ids and are listed in another order, and yet all is answered alike. -/
theorem subscriptions_of_listened_podcast :
    (Store.empty.run listenedFirst).2[8]? =
        some (.ok (.urls ["http://b.example/feed", "http://a.example/feed"])) ∧
      (Store.empty.run neverListened).2[3]? =
        some (.ok (.urls ["http://a.example/feed", "http://b.example/feed"])) ∧
      Omits listenedFirst neverListened ∧
      List.Forall₂ SameStep (essential listenedFirst (Store.empty.run listenedFirst).2)
        (essential neverListened (Store.empty.run neverListened).2) := by
  have homits : Omits listenedFirst neverListened :=
    .keep _ <| .skip rfl <| .skip rfl <| .keep _ <| .skip rfl <| .skip rfl <| .keep _ <|
      .skip rfl <| .keep _ <| .keep _ <| .keep _ .nil
  obtain ⟨hfirst, hsecond⟩ :
      (Store.empty.run listenedFirst).2[8]? =
        some (.ok (.urls ["http://b.example/feed", "http://a.example/feed"])) ∧
      (Store.empty.run neverListened).2[3]? =
        some (.ok (.urls ["http://a.example/feed", "http://b.example/feed"])) := by
    decide +kernel
  exact ⟨hfirst, hsecond, homits, subscriptions_independent homits⟩

end Store

end PodcastLedger
