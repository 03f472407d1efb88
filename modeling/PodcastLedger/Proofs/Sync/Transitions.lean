import Mathlib.Data.List.Chain
import PodcastLedger.Proofs.Uploads.Change

/-!
# Told transitions

What the answers to uploads tell of one address is a list of transitions from side to side, which
alternate if they are reported when they happen and only then. An address stands where the last one
left it (`StandsAt`). `Store.Consistent.upload_tells` compares the two for an upload: it leaves the
address where it stood and tells nothing of it, or turns it to the other side and tells so once.
-/

namespace PodcastLedger

/-- The side to which a podcast was turned, and the time of the upload that turned it. -/
abbrev Transition := Bool × Instant

/-- What the answer to an upload tells of an address. -/
def SubscriptionUpdate.tells (update : SubscriptionUpdate) (url : String) : List Transition :=
  (update.subscribed.filter fun podcast => podcast.row.url == url).map
      (fun _ => (true, update.timestamp)) ++
    (update.unsubscribed.filter fun podcast => podcast.row.url == url).map
      fun _ => (false, update.timestamp)

/-- What an answer tells of an address. Only uploads of subscriptions are answered so. -/
def Answer.tells (answer : Answer) (url : String) : List Transition :=
  match answer with
  | .subscriptionUpdate update => update.tells url
  | _ => []

/-- Transitions alternate between the sides, and the first one is a subscription. -/
def Alternate (history : List Transition) : Prop :=
  (false :: history.map Prod.fst).IsChain (· ≠ ·)

/-- An address stands where the last transition left it. Without one it is in no row, or in a row
that was never subscribed to. -/
def StandsAt (history : List Transition) (standing : Option (Bool × Instant)) : Prop :=
  match history.getLast? with
  | none => standing = none ∨ standing = some (false, .epoch)
  | some (side, time) => standing = some (side, time.stored)

section Histories

variable {history : List Transition} {standing : Option (Bool × Instant)} {side : Bool}
  {time : Instant}

/-- The last side told is the one on which the address stands. -/
theorem StandsAt.last_side (hstands : StandsAt history standing) :
    ∀ last ∈ (false :: history.map Prod.fst).getLast?, last = standing.any Prod.fst := by
  unfold StandsAt at hstands
  rw [List.getLast?_cons, List.getLast?_map]
  cases hlast : history.getLast? with
  | none =>
      rw [hlast] at hstands
      rintro last ⟨⟩
      rcases hstands with rfl | rfl <;> rfl
  | some transition =>
      rw [hlast] at hstands
      rintro last ⟨⟩
      rw [hstands]
      rfl

/-- A turn from the side on which the address stands goes on the list, and is where the address
stands then. -/
theorem StandsAt.turn (hstands : StandsAt history standing) (halternate : Alternate history)
    (hother : standing.any Prod.fst ≠ side) (time : Instant) :
    Alternate (history ++ [(side, time)]) ∧
      StandsAt (history ++ [(side, time)]) (some (side, time.stored)) := by
  constructor
  · unfold Alternate
    rw [List.map_append, ← List.cons_append]
    refine halternate.append (List.isChain_singleton _) ?_
    intro last hlast next hnext
    obtain rfl : side = next := Option.some.inj hnext
    rw [hstands.last_side last hlast]
    exact hother
  · unfold StandsAt
    rw [List.getLast?_concat]

/-- Transitions that alternate are none if there is no subscription among them. -/
theorem Alternate.eq_nil (halternate : Alternate history)
    (hnone : ∀ time, (true, time) ∉ history) : history = [] := by
  rcases history with _ | ⟨⟨_ | _, time⟩, rest⟩
  · rfl
  · exact absurd rfl (List.isChain_cons_cons.mp halternate).1
  · exact absurd List.mem_cons_self (hnone time)

/-- To be in a row that was never subscribed to is no transition. -/
theorem StandsAt.fresh (hstands : StandsAt history none) :
    StandsAt history (some (false, .epoch)) := by
  unfold StandsAt at hstands ⊢
  split at hstands
  · exact .inr rfl
  · cases hstands

end Histories

namespace Store

variable {store next : Store} {userId writerId : Int} {name url device : String} {time : Instant}
  {urls : List String} {ended : String → Bool}

/-! ## Uploads -/

/-- An address is subscribed to exactly if it stands there. -/
theorem Consistent.mem_subscribed_iff (hconsistent : store.Consistent) :
    url ∈ store.subscribed userId ↔ (store.standing? userId url).any Prod.fst = true := by
  unfold standing?
  constructor
  · rintro ⟨podcast, hmem, howner, hurl, hsubscribed⟩
    rw [hconsistent.find_podcast_iff.mpr ⟨hmem, howner, hurl⟩]
    exact hsubscribed
  · intro hside
    cases hfind : store.findPodcast? userId url with
    | none =>
        rw [hfind] at hside
        cases hside
    | some podcast =>
        rw [hfind] at hside
        obtain ⟨hmem, howner, hurl⟩ := mem_of_find_podcast hfind
        exact ⟨podcast, hmem, howner, hurl, hside⟩

/-- What is wanted of an address that is on that side already leaves its standing. -/
theorem changed_of_same {standing : Option (Bool × Instant)} {side : Bool}
    (hsame : standing.any Prod.fst = side) : changed (some side) time standing = standing := by
  rcases standing with _ | ⟨_ | _, since⟩ <;> cases side <;> first | rfl | cases hsame

/-- What is wanted of an address that is on the other side turns it. -/
theorem changed_of_other {standing : Option (Bool × Instant)} {side : Bool}
    (hother : standing.any Prod.fst ≠ side) :
    changed (some side) time standing = some (side, time) := by
  rcases standing with _ | ⟨_ | _, since⟩ <;> cases side <;> first | rfl | exact absurd rfl hother

/-- Where an address stands after an upload. -/
theorem standing_after_upload (hdisjoint : ∀ url, urls.contains url = true → ended url = false) :
    (store.uploaded userId device urls ended time).standing? userId url =
      changed (if url ∈ urls then some true else if ended url then some false else none)
        time.stored (store.standing? userId url) := by
  have hdevice : (store.withDevice userId device).standing? userId url =
      store.standing? userId url := by
    unfold standing? findPodcast?
    rw [podcasts_with_device]
  unfold uploaded prepared
  rw [standing_turned, standing_turned, standing_with_podcasts, hdevice]
  by_cases hadded : url ∈ urls
  · simp [hadded, hdisjoint url (List.contains_iff_mem.mpr hadded), changed]
  · by_cases hended : ended url = true <;> simp [hadded, hended, changed]

/-- An address is listed once among rows in strict order if it is that of one of them, and else not
at all. -/
theorem listed_of_ascending (url : String) {rows : List (Entry Podcast)}
    (hascending : rows.Pairwise fun first second => first.row.url < second.row.url)
    (transition : Transition) :
    (url ∈ addresses rows → ((rows.filter fun podcast => podcast.row.url == url).map
      fun _ => transition) = [transition]) ∧
    (url ∉ addresses rows → ((rows.filter fun podcast => podcast.row.url == url).map
      fun _ => transition) = []) := by
  have hnone : ∀ {rows : List (Entry Podcast)}, url ∉ addresses rows →
      ((rows.filter fun podcast => podcast.row.url == url).map fun _ => transition) = [] := by
    intro rows hother
    rw [List.map_eq_nil_iff, List.filter_eq_nil_iff]
    exact fun podcast hmem hurl => hother ⟨podcast, hmem, beq_iff_eq.mp hurl⟩
  refine ⟨fun hlisted => ?_, hnone⟩
  induction hascending with
  | nil =>
      obtain ⟨_, hmem, _⟩ := hlisted
      cases hmem
  | @cons first rest hfirst hrest ih =>
      by_cases hurl : first.row.url = url
      · have hothers : url ∉ addresses rest := by
          rintro ⟨other, hmem, hother⟩
          exact String.lt_irrefl _ (hurl ▸ hother ▸ hfirst other hmem)
        rw [List.filter_cons_of_pos (by simpa using hurl), List.map_cons, hnone hothers]
      · rw [List.filter_cons_of_neg (by simpa using hurl)]
        obtain ⟨podcast, hmem, hpodcast⟩ := hlisted
        rcases List.mem_cons.mp hmem with rfl | hmem
        · exact absurd hpodcast hurl
        · exact ih ⟨podcast, hmem, hpodcast⟩

/-- An upload leaves an address where it stood and tells nothing of it, or turns it to the other
side and tells so. -/
theorem Consistent.upload_tells (hconsistent : store.Consistent) (huser : store.users.Has userId)
    (hname : IsName device) (hdisjoint : ∀ url, urls.contains url = true → ended url = false)
    (time : Instant) (url : String) (rewrites : List Web.Rewrite) :
    let before := store.standing? userId url
    let after := (store.uploaded userId device urls ended time).standing? userId url
    let told := (store.uploadUpdate userId device urls ended time rewrites).tells url
    (after = before ∧ told = []) ∨
      ∃ side, before.any Prod.fst ≠ side ∧ after = some (side, time.stored) ∧
        told = [(side, time)] := by
  intro before after told
  let update := store.uploadUpdate userId device urls ended time rewrites
  have hprepared := hconsistent.prepare huser hname urls
  have hons : update.subscribed.Pairwise fun first second => first.row.url < second.row.url :=
    hprepared.turned_rows_ascending
  have hoffs : update.unsubscribed.Pairwise fun first second => first.row.url < second.row.url :=
    hprepared.turned_rows_ascending
  obtain ⟨hon, hnoOn⟩ := listed_of_ascending url hons (true, time)
  obtain ⟨hoff, hnoOff⟩ := listed_of_ascending url hoffs (false, time)
  rw [hconsistent.addresses_subscribed huser hname] at hon hnoOn
  rw [addresses_unsubscribed] at hoff hnoOff
  have hstood : url ∈ store.subscribed userId ↔ before.any Prod.fst = true :=
    hconsistent.mem_subscribed_iff
  have hafter : after = changed
      (if url ∈ urls then some true else if ended url then some false else none) time.stored
        before := standing_after_upload hdisjoint
  have htold : told = ((update.subscribed.filter fun podcast => podcast.row.url == url).map
      fun _ => (true, time)) ++
        (update.unsubscribed.filter fun podcast => podcast.row.url == url).map
          fun _ => (false, time) := rfl
  by_cases hadded : url ∈ urls
  · have hkept : ended url = false := hdisjoint url (List.contains_iff_mem.mpr hadded)
    rw [if_pos hadded] at hafter
    rw [hnoOff fun hboth => by simp [hkept] at hboth, List.append_nil] at htold
    by_cases hside : before.any Prod.fst = true
    · exact .inl ⟨hafter.trans (changed_of_same hside),
        htold.trans (hnoOn fun hnew => hnew.2 (hstood.mpr hside))⟩
    · exact .inr ⟨true, hside, hafter.trans (changed_of_other hside),
        htold.trans (hon ⟨hadded, fun hold => hside (hstood.mp hold)⟩)⟩
  · rw [if_neg hadded] at hafter
    rw [hnoOn fun hnew => hadded hnew.1, List.nil_append] at htold
    by_cases hended : ended url = true
    · rw [if_pos hended] at hafter
      by_cases hside : before.any Prod.fst = false
      · exact .inl ⟨hafter.trans (changed_of_same hside),
          htold.trans (hnoOff fun hboth => by simp [hstood.mp hboth.1] at hside)⟩
      · exact .inr ⟨false, hside, hafter.trans (changed_of_other hside),
          htold.trans (hoff ⟨hstood.mpr (Bool.not_eq_false _ ▸ hside), hended⟩)⟩
    · rw [if_neg hended] at hafter
      exact .inl ⟨hafter, htold.trans (hnoOff fun hboth => hended hboth.2)⟩

end Store

end PodcastLedger
