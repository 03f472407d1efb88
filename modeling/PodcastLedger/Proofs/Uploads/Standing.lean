import PodcastLedger.Proofs.Uploads.Replacement

/-!
# Standings

What one address stands at for a user: in no row, or in a row with a side and a time. An upload
changes the standing of each address on its own (`Store.Consistent.standing_uploaded`), and to make
a change twice is to make it once (`changed_changed`), so a change of many addresses may be made in
any pieces and in any order (`Store.Consistent.standing_run`).
-/

namespace PodcastLedger

/-- The side and the time of a standing, changed to a side as of a time if it is on the other. -/
def turnedTo (subscribed : Bool) (time : Instant) (standing : Bool × Instant) : Bool × Instant :=
  if standing.1 = subscribed then standing else (subscribed, time)

/-- The standing of an address after it was wanted on a side as of a time. An address that is in no
row takes one only to be subscribed to. -/
def changed (wanted : Option Bool) (time : Instant) (standing : Option (Bool × Instant)) :
    Option (Bool × Instant) :=
  match wanted with
  | none => standing
  | some true => some (turnedTo true time (standing.getD (false, .epoch)))
  | some false => standing.map (turnedTo false time)

/-- To make a change twice is to make it once. -/
theorem changed_changed (wanted : Option Bool) (time : Instant)
    (standing : Option (Bool × Instant)) :
    changed wanted time (changed wanted time standing) = changed wanted time standing := by
  have htwice : ∀ side standing,
      turnedTo side time (turnedTo side time standing) = turnedTo side time standing := by
    intro side standing
    unfold turnedTo
    by_cases hside : standing.1 = side <;> simp [hside]
  rcases wanted with _ | side
  · rfl
  · cases side with
    | true => exact congrArg some (htwice true _)
    | false => cases standing <;> simp [changed, htwice]

/-- The side on which a change wants an address. -/
def wantedSide (add remove : List String) (url : String) : Option Bool :=
  if (Web.canonicalAll remove).contains url then some false
  else if (Web.canonicalAll add).contains url then some true
  else none

/-- The sides depend on the addresses meant only. -/
theorem wanted_side_congr {add add' remove remove' : List String}
    (hadd : requested add = requested add') (hremove : requested remove = requested remove')
    (url : String) : wantedSide add remove url = wantedSide add' remove' url := by
  have hcontains : ∀ {raws raws' : List String}, requested raws = requested raws' →
      (Web.canonicalAll raws).contains url = (Web.canonicalAll raws').contains url := by
    intro raws raws' hsame
    rw [requested_eq, requested_eq] at hsame
    have hiff : url ∈ Web.canonicalAll raws ↔ url ∈ Web.canonicalAll raws' :=
      Set.ext_iff.mp hsame url
    rw [Bool.eq_iff_iff, List.contains_iff_mem, List.contains_iff_mem, hiff]
  rw [wantedSide, wantedSide, hcontains hadd, hcontains hremove]

/-- An address is meant by a list exactly if it is one of the canonical forms. -/
theorem contains_iff_requested {raws : List String} {url : String} :
    (Web.canonicalAll raws).contains url = true ↔ url ∈ requested raws := by
  rw [List.contains_iff_mem, requested_eq]
  rfl

/-- Two lists mean what each of them means. -/
theorem requested_append (first second : List String) :
    requested (first ++ second) = requested first ∪ requested second := by
  refine Set.ext fun url => ?_
  simp only [requested, Set.mem_ofPred_eq, Set.mem_union, List.mem_append, or_and_right, exists_or]

/-- A change that is made after another one, with no address on both sides, makes one change of
both. -/
theorem changed_wanted_append {add add' remove remove' : List String}
    (hdisjoint : Disjoint (requested (add ++ add')) (requested (remove ++ remove')))
    (time : Instant) (url : String) (standing : Option (Bool × Instant)) :
    changed (wantedSide add' remove' url) time
        (changed (wantedSide add remove url) time standing) =
      changed (wantedSide (add ++ add') (remove ++ remove') url) time standing := by
  have happend : ∀ first second : List String,
      (Web.canonicalAll (first ++ second)).contains url =
        ((Web.canonicalAll first).contains url || (Web.canonicalAll second).contains url) := by
    intro first second
    rw [Bool.eq_iff_iff, Bool.or_eq_true, contains_iff_requested, contains_iff_requested,
      contains_iff_requested, requested_append]
    rfl
  have hnot : ¬ (((Web.canonicalAll add).contains url || (Web.canonicalAll add').contains url) ∧
      ((Web.canonicalAll remove).contains url || (Web.canonicalAll remove').contains url)) := by
    rw [← happend, ← happend, contains_iff_requested, contains_iff_requested]
    rintro ⟨hadd, hremove⟩
    exact Set.disjoint_left.mp hdisjoint hadd hremove
  unfold wantedSide
  rw [happend, happend]
  -- Of the two changes one does not want the address, or both want it on one side.
  generalize (Web.canonicalAll add).contains url = first at hnot ⊢
  generalize (Web.canonicalAll add').contains url = second at hnot ⊢
  generalize (Web.canonicalAll remove).contains url = third at hnot ⊢
  generalize (Web.canonicalAll remove').contains url = fourth at hnot ⊢
  cases first <;> cases second <;> cases third <;> cases fourth <;>
    first
    | exact absurd ⟨rfl, rfl⟩ hnot
    | exact changed_changed _ time standing
    | rfl

namespace Store

/-- What an address stands at for a user. -/
def standing? (store : Store) (userId : Int) (url : String) : Option (Bool × Instant) :=
  (store.findPodcast? userId url).map fun podcast =>
    (podcast.row.subscribed, podcast.row.updatedAt)

variable {store next : Store} {userId : Int} {url : String} {device : String} {time : Instant}
  {urls : List String}

/-- An address in no row of the user has no standing, and conversely. -/
theorem standing_eq_none_iff :
    store.standing? userId url = none ↔ url ∉ store.catalogued userId := by
  rw [standing?, Option.map_eq_none_iff, find_podcast_eq_none_iff]

/-- Turning podcasts, of whichever user, settles the one that is found. -/
theorem find_podcast_turned {writerId : Int} {selected : String → Bool} {subscribed : Bool} :
    (store.turned writerId selected subscribed time).findPodcast? userId url =
      (store.findPodcast? userId url).map
        (settle writerId (side selected subscribed) time.stored) := by
  unfold findPodcast? Table.find?
  rw [entries_turned, List.find?_map]
  simp only [Function.comp_def, user_id_settle, url_settle]

/-- Turning podcasts of one user leaves the standings of another one. -/
theorem standing_turned_of_other {writerId : Int} {selected : String → Bool} {subscribed : Bool}
    (hother : userId ≠ writerId) :
    (store.turned writerId selected subscribed time).standing? userId url =
      store.standing? userId url := by
  unfold standing?
  rw [find_podcast_turned]
  cases hread : store.findPodcast? userId url with
  | none => rfl
  | some podcast =>
      obtain ⟨_, howner, _⟩ := mem_of_find_podcast hread
      rw [Option.map_some, settle_of_other (howner ▸ hother)]

/-- Turning changes the standing of a selected address. -/
theorem standing_turned {selected : String → Bool} {subscribed : Bool} :
    (store.turned userId selected subscribed time).standing? userId url =
      if selected url then (store.standing? userId url).map (turnedTo subscribed time.stored)
      else store.standing? userId url := by
  unfold standing?
  rw [find_podcast_turned]
  cases hread : store.findPodcast? userId url with
  | none => simp
  | some podcast =>
      obtain ⟨_, howner, hurl⟩ := mem_of_find_podcast hread
      split
      · next hselected =>
          have hwanted : side selected subscribed podcast.row.url = some subscribed := by
            rw [hurl]
            exact if_pos hselected
          rw [Option.map_some, Option.map_some, settle_of_some howner hwanted]
          simp only [Option.map_some, turnedTo, Podcast.turn]
          split <;> rfl
      · next hother =>
          have hwanted : side selected subscribed podcast.row.url = none := by
            rw [hurl]
            exact if_neg hother
          rw [Option.map_some, settle_of_none hwanted]

/-- Cataloguing gives an address a standing if it has none. -/
theorem standing_with_podcast {other : String} :
    (store.withPodcast userId other).standing? userId url =
      if url = other then some ((store.standing? userId url).getD (false, .epoch))
      else store.standing? userId url := by
  by_cases hknown : other ∈ store.catalogued userId
  · rw [with_podcast_of_mem hknown]
    split
    · next heq =>
        subst heq
        cases hstanding : store.standing? userId url with
        | none => exact absurd hknown (standing_eq_none_iff.mp hstanding)
        | some standing => rfl
    · rfl
  · rw [with_podcast_of_not_mem hknown]
    unfold standing? findPodcast?
    rw [Table.find_insert]
    by_cases heq : url = other
    · subst heq
      have hnone : store.findPodcast? userId url = none := find_podcast_eq_none_iff.mpr hknown
      unfold findPodcast? at hnone
      rw [hnone]
      simp [Podcast.fresh]
    · simp [Podcast.fresh, heq, Ne.symm heq]

/-- Cataloguing gives addresses a standing if they have none. -/
theorem standing_with_podcasts :
    (store.withPodcasts userId urls).standing? userId url =
      if url ∈ urls then some ((store.standing? userId url).getD (false, .epoch))
      else store.standing? userId url := by
  induction urls generalizing store with
  | nil => simp [withPodcasts]
  | cons other urls ih =>
      unfold withPodcasts
      rw [ih, standing_with_podcast]
      by_cases hfirst : url = other <;> by_cases hrest : url ∈ urls <;> simp [hfirst, hrest]

/-- An upload changes the standing of each address on its own. -/
theorem standing_uploaded {add remove : List String}
    (hdisjoint : ∀ url, (Web.canonicalAll add).contains url = true →
      (Web.canonicalAll remove).contains url = false) :
    (store.uploaded userId device (Web.canonicalAll add) (Web.canonicalAll remove).contains
        time).standing? userId url =
      changed (wantedSide add remove url) time.stored (store.standing? userId url) := by
  have hdevice : (store.withDevice userId device).standing? userId url =
      store.standing? userId url := by
    unfold standing? findPodcast?
    rw [podcasts_with_device]
  unfold uploaded prepared
  rw [standing_turned, standing_turned, standing_with_podcasts, hdevice, wantedSide]
  by_cases hadd : (Web.canonicalAll add).contains url = true
  · have hkept : url ∉ Web.canonicalAll remove := by simpa using hdisjoint url hadd
    simp [List.contains_iff_mem.mp hadd, hkept, changed]
  · have hnot : url ∉ Web.canonicalAll add := fun hmem => hadd (List.contains_iff_mem.mpr hmem)
    by_cases hremove : (Web.canonicalAll remove).contains url = true
    · simp [hnot, List.contains_iff_mem.mp hremove, changed]
    · have hkept : url ∉ Web.canonicalAll remove := fun hmem =>
        hremove (List.contains_iff_mem.mpr hmem)
      simp [hnot, hkept, changed]

end Store

end PodcastLedger
