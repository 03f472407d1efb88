import PodcastLedger.Proofs.Sync.Convergence

/-!
# Turned podcasts

What turning the podcasts of a user and adding podcasts to the catalog do, row by row and as sets of
addresses. Turning settles the rows of the user on the side that is wanted (`Store.entries_turned`):
a row that is on that side already stays as it is, and of any other row only the side and the time
change (`kept_or_turned_settle`).
-/

namespace PodcastLedger

/-- A turn of a podcast that is not as wanted changes the side and the time. -/
theorem Podcast.turn_of_ne {podcast : Podcast} {subscribed : Bool}
    (hother : podcast.subscribed ≠ subscribed) (time : Instant) :
    podcast.turn subscribed time = { podcast with subscribed, updatedAt := time } :=
  if_neg hother

/-- The side on which the selected addresses are wanted. -/
def side (selected : String → Bool) (subscribed : Bool) (url : String) : Option Bool :=
  if selected url then some subscribed else none

/-- The podcast as an upload leaves it, which wants some addresses of a user on one side or the
other. -/
def settle (userId : Int) (wanted : String → Option Bool) (time : Instant)
    (podcast : Entry Podcast) : Entry Podcast :=
  if podcast.row.userId = userId then
    match wanted podcast.row.url with
    | some subscribed => ⟨podcast.id, podcast.row.turn subscribed time⟩
    | none => podcast
  else podcast

/-- The row is as before, or it is one of the user that was turned as of a time and is as before
otherwise. -/
def KeptOrTurned (userId : Int) (time : Instant) (before after : Entry Podcast) : Prop :=
  after = before ∨ before.row.userId = userId ∧
    after =
      ⟨before.id,
        { before.row with subscribed := !before.row.subscribed, updatedAt := time }⟩

variable {userId : Int} {wanted : String → Option Bool} {time : Instant}

/-- Podcasts of other users stay. -/
theorem settle_of_other {podcast : Entry Podcast} (hother : podcast.row.userId ≠ userId) :
    settle userId wanted time podcast = podcast :=
  if_neg hother

/-- A podcast of the user is turned to the side that is wanted. -/
theorem settle_of_some {podcast : Entry Podcast} (howner : podcast.row.userId = userId)
    {subscribed : Bool} (hwanted : wanted podcast.row.url = some subscribed) :
    settle userId wanted time podcast = ⟨podcast.id, podcast.row.turn subscribed time⟩ := by
  unfold settle
  rw [if_pos howner, hwanted]

/-- A podcast stays if nothing is wanted of its address. -/
theorem settle_of_none {podcast : Entry Podcast} (hwanted : wanted podcast.row.url = none) :
    settle userId wanted time podcast = podcast := by
  unfold settle
  rw [hwanted]
  exact ite_self _

/-- A podcast keeps its user. -/
@[simp] theorem user_id_settle (podcast : Entry Podcast) :
    (settle userId wanted time podcast).row.userId = podcast.row.userId := by
  unfold settle
  split
  · split
    · exact podcast.row.userId_turn _ _
    · rfl
  · rfl

/-- A podcast keeps its address. -/
@[simp] theorem url_settle (podcast : Entry Podcast) :
    (settle userId wanted time podcast).row.url = podcast.row.url := by
  unfold settle
  split
  · split
    · exact podcast.row.url_turn _ _
    · rfl
  · rfl

/-- A podcast of the user is on the side that is wanted, or on its own if nothing is wanted. -/
theorem subscribed_settle {podcast : Entry Podcast} (howner : podcast.row.userId = userId) :
    (settle userId wanted time podcast).row.subscribed =
      (wanted podcast.row.url).getD podcast.row.subscribed := by
  cases hwanted : wanted podcast.row.url with
  | none => rw [settle_of_none hwanted, Option.getD_none]
  | some subscribed =>
      rw [settle_of_some howner hwanted, Option.getD_some]
      exact podcast.row.subscribed_turn subscribed time

/-- A podcast is kept or turned. -/
theorem kept_or_turned_settle (podcast : Entry Podcast) :
    KeptOrTurned userId time podcast (settle userId wanted time podcast) := by
  by_cases howner : podcast.row.userId = userId
  · cases hwanted : wanted podcast.row.url with
    | none => exact .inl (settle_of_none hwanted)
    | some subscribed =>
        rw [settle_of_some howner hwanted]
        by_cases hsame : podcast.row.subscribed = subscribed
        · rw [Podcast.turn_of_eq hsame]
          exact .inl rfl
        · rw [Podcast.turn_of_ne hsame]
          have hflip : subscribed = !podcast.row.subscribed := by
            cases subscribed <;> simp_all
          rw [hflip]
          exact .inr ⟨howner, rfl⟩
  · exact .inl (settle_of_other howner)

/-- What becomes of a podcast depends on what is wanted of its address only. -/
theorem settle_congr {first second : String → Option Bool} {podcast : Entry Podcast}
    (hsame : first podcast.row.url = second podcast.row.url) :
    settle userId first time podcast = settle userId second time podcast := by
  unfold settle
  rw [hsame]

/-- To settle podcasts twice, with no address wanted on both sides, is to settle them once. -/
theorem settle_settle {first second : String → Option Bool}
    (hagree : ∀ url, first url = none ∨ second url = none) (podcast : Entry Podcast) :
    settle userId second time (settle userId first time podcast) =
      settle userId (fun url => (second url).or (first url)) time podcast := by
  rcases hagree podcast.row.url with hnone | hnone
  · rw [settle_of_none hnone]
    exact settle_congr (by rw [hnone, Option.or_none])
  · rw [settle_of_none (by rw [url_settle]; exact hnone)]
    exact settle_congr (by rw [hnone, Option.none_or])

namespace Store

variable {store next : Store} {selected : String → Bool} {subscribed : Bool}

/-- The addresses of the podcasts of a user, subscribed to or not. -/
def catalogued (store : Store) (userId : Int) : Set String :=
  {url | ∃ podcast ∈ store.podcasts.entries,
    podcast.row.userId = userId ∧ podcast.row.url = url}

/-- What is subscribed to is in the catalog. -/
theorem subscribed_subset (store : Store) (userId : Int) :
    store.subscribed userId ⊆ store.catalogued userId := by
  rintro url ⟨podcast, hmem, howner, hurl, _⟩
  exact ⟨podcast, hmem, howner, hurl⟩

/-- An address is not in the catalog of a user exactly if no podcast is found by it. -/
theorem find_podcast_eq_none_iff {url : String} :
    store.findPodcast? userId url = none ↔ url ∉ store.catalogued userId := by
  unfold findPodcast?
  rw [Table.find_eq_none_iff]
  simp [catalogued]

/-! ## Turns -/

/-- The store after podcasts of a user were turned. -/
def turned (store : Store) (userId : Int) (selected : String → Bool) (subscribed : Bool)
    (time : Instant) : Store :=
  { store with
    podcasts :=
      store.podcasts.modify (isTurned userId selected subscribed)
        (·.turn subscribed time.stored) }

/-- The podcasts that were turned, as they are then, in the order of their addresses. -/
def turnedRows (store : Store) (userId : Int) (selected : String → Bool) (subscribed : Bool)
    (time : Instant) : List (Entry Podcast) :=
  ((store.podcasts.entries.filter (isTurned userId selected subscribed)).map fun podcast =>
    ⟨podcast.id, podcast.row.turn subscribed time.stored⟩).mergeSort fun first second =>
      decide (first.row.url ≤ second.row.url)

/-- Nothing is reported exactly if there is nothing to turn. -/
theorem turned_rows_eq_nil_iff :
    store.turnedRows userId selected subscribed time = [] ↔
      store.podcasts.entries.filter (isTurned userId selected subscribed) = [] := by
  rw [turnedRows, ← List.perm_nil, List.Perm.congr_left (List.mergeSort_perm _ _), List.perm_nil,
    List.map_eq_nil_iff]

/-- The store with the rows that were turned on the way to it. The time must be one that can be
stored, unless no row was turned. -/
def reporting (store : Store) (rows : List (Entry Podcast)) (time : Instant) :
    Except Failure (Store × List (Entry Podcast)) :=
  if rows = [] ∨ time.IsStorable then .ok (store, rows) else .error (.refused .updateSubscription)

/-- Two reports after each other are one report. -/
theorem reporting_append {first second : Store} {rows others : List (Entry Podcast)}
    (rest : Store → Except Failure (Store × List (Entry Podcast)))
    (hrest : rest first = reporting second others time) :
    (do
      let (store, rows) ← reporting first rows time
      let (store, others) ← rest store
      .ok (store, rows ++ others)) = reporting second (rows ++ others) time := by
  unfold reporting at hrest ⊢
  simp only [List.append_eq_nil_iff]
  by_cases hstorable : time.IsStorable
  · simp only [hstorable, or_true, if_true, bind, Except.bind] at hrest ⊢
    rw [hrest]
  · simp only [hstorable, or_false] at hrest ⊢
    by_cases hrows : rows = []
    · simp only [hrows, true_and, if_true, bind, Except.bind, hrest]
      by_cases hothers : others = []
      · rw [if_pos hothers, if_pos hothers]
      · rw [if_neg hothers, if_neg hothers]
    · rw [if_neg hrows, if_neg fun hboth => hrows hboth.1]
      rfl

/-- What a report is of. -/
theorem reporting_eq_ok_iff {rows others : List (Entry Podcast)} {other : Store} :
    reporting store rows time = .ok (other, others) ↔
      (rows = [] ∨ time.IsStorable) ∧ other = store ∧ others = rows := by
  unfold reporting
  constructor
  · intro h
    split at h
    · next hcondition =>
        cases h
        exact ⟨hcondition, rfl, rfl⟩
    · cases h
  · rintro ⟨hcondition, rfl, rfl⟩
    exact if_pos hcondition

/-- One podcast to turn is reported as it is after the turn. -/
theorem turned_rows_of_filter_eq {podcast : Entry Podcast}
    (hfilter : store.podcasts.entries.filter (isTurned userId selected subscribed) = [podcast]) :
    store.turnedRows userId selected subscribed time =
      [⟨podcast.id, podcast.row.turn subscribed time.stored⟩] := by
  rw [turnedRows, hfilter, List.map_singleton, List.mergeSort_singleton]

/-- Turning leads to the store in which the podcasts are turned and reports them. -/
theorem turn_podcasts_eq :
    store.turnPodcasts userId selected subscribed time =
      reporting (store.turned userId selected subscribed time)
        (store.turnedRows userId selected subscribed time) time := by
  unfold reporting
  simp only [turned_rows_eq_nil_iff]
  show (require (store.podcasts.entries.filter (isTurned userId selected subscribed) = [] ∨
      time.IsStorable) .updateSubscription >>= fun _ =>
    .ok (store.turned userId selected subscribed time,
      store.turnedRows userId selected subscribed time)) = _
  unfold require
  split <;> rfl

/-- Podcasts are turned exactly if there is none to turn or the time can be stored. -/
theorem turn_podcasts_iff {rows : List (Entry Podcast)} :
    store.turnPodcasts userId selected subscribed time = .ok (next, rows) ↔
      (store.turnedRows userId selected subscribed time = [] ∨ time.IsStorable) ∧
        next = store.turned userId selected subscribed time ∧
        rows = store.turnedRows userId selected subscribed time := by
  rw [turn_podcasts_eq, reporting_eq_ok_iff]

/-- Podcasts are turned if there is none to turn or the time can be stored. -/
theorem turn_podcasts_of
    (hcondition : store.turnedRows userId selected subscribed time = [] ∨ time.IsStorable) :
    store.turnPodcasts userId selected subscribed time =
      .ok (store.turned userId selected subscribed time,
        store.turnedRows userId selected subscribed time) :=
  turn_podcasts_iff.mpr ⟨hcondition, rfl, rfl⟩

/-- A podcast is to be turned if it is one of the user, selected, and not on the side wanted. -/
theorem is_turned_iff {podcast : Entry Podcast} :
    isTurned userId selected subscribed podcast = true ↔
      podcast.row.userId = userId ∧ selected podcast.row.url = true ∧
        podcast.row.subscribed ≠ subscribed := by
  simp [isTurned, and_assoc]

/-- Turning settles the rows on the side that is wanted. -/
theorem entries_turned :
    (store.turned userId selected subscribed time).podcasts.entries =
      store.podcasts.entries.map (settle userId (side selected subscribed) time.stored) := by
  refine List.map_congr_left fun podcast _ => ?_
  split
  · next hturned =>
      obtain ⟨howner, hselected, _⟩ := is_turned_iff.mp hturned
      rw [settle_of_some howner (if_pos hselected)]
  · next hkept =>
      by_cases howner : podcast.row.userId = userId
      · by_cases hselected : selected podcast.row.url = true
        · have hsame : podcast.row.subscribed = subscribed :=
            Decidable.byContradiction fun hother =>
              hkept (is_turned_iff.mpr ⟨howner, hselected, hother⟩)
          rw [settle_of_some howner (if_pos hselected), Podcast.turn_of_eq hsame]
        · rw [settle_of_none (if_neg hselected)]
      · rw [settle_of_other howner]

/-- Turning twice, with no address selected twice, settles the rows once. -/
theorem entries_turned_turned {first second : String → Bool} {firstSide secondSide : Bool}
    (hdisjoint : ∀ url, first url = true → second url = false) :
    ((store.turned userId first firstSide time).turned userId second secondSide
        time).podcasts.entries =
      store.podcasts.entries.map
        (settle userId (fun url => (side second secondSide url).or (side first firstSide url))
          time.stored) := by
  rw [entries_turned, entries_turned, List.map_map]
  refine List.map_congr_left fun podcast _ => settle_settle (fun url => ?_) podcast
  unfold side
  cases hfirst : first url with
  | false => exact .inl (if_neg Bool.false_ne_true)
  | true => exact .inr (by rw [hdisjoint url hfirst]; exact if_neg Bool.false_ne_true)

/-- Turning twice to one side, with no address selected twice, is turning once. -/
theorem turned_turned {first second : String → Bool}
    (hdisjoint : ∀ url, first url = true → second url = false) :
    (store.turned userId first subscribed time).turned userId second subscribed time =
      store.turned userId (fun url => first url || second url) subscribed time := by
  have htable : ((store.turned userId first subscribed time).turned userId second subscribed
        time).podcasts =
      (store.turned userId (fun url => first url || second url) subscribed time).podcasts := by
    refine Table.ext ?_ rfl
    rw [entries_turned_turned hdisjoint, entries_turned]
    refine List.map_congr_left fun podcast _ => settle_congr ?_
    by_cases hfirst : first podcast.row.url = true <;>
      by_cases hsecond : second podcast.row.url = true <;> simp [side, hfirst, hsecond]
  exact congrArg (fun podcasts => { store with podcasts }) htable

/-- Turns of different addresses may be made in either order. -/
theorem turned_comm {first second : String → Bool} {firstSide secondSide : Bool}
    (hdisjoint : ∀ url, first url = true → second url = false) :
    (store.turned userId first firstSide time).turned userId second secondSide time =
      (store.turned userId second secondSide time).turned userId first firstSide time := by
  have hdisjoint' : ∀ url, second url = true → first url = false := by
    intro url hsecond
    by_contra hfirst
    rw [hdisjoint url (Bool.not_eq_false _ ▸ hfirst)] at hsecond
    cases hsecond
  have htable : ((store.turned userId first firstSide time).turned userId second secondSide
        time).podcasts =
      ((store.turned userId second secondSide time).turned userId first firstSide time).podcasts := by
    refine Table.ext ?_ rfl
    rw [entries_turned_turned hdisjoint, entries_turned_turned hdisjoint']
    refine List.map_congr_left fun podcast _ => settle_congr ?_
    by_cases hfirst : first podcast.row.url = true
    · simp [side, hfirst, hdisjoint _ hfirst]
    · simp [side, hfirst]
  exact congrArg (fun podcasts => { store with podcasts }) htable

/-- Turning leaves the catalog as it is. -/
@[simp] theorem catalogued_turned (otherId : Int) :
    (store.turned userId selected subscribed time).catalogued otherId =
      store.catalogued otherId := by
  unfold catalogued
  rw [entries_turned]
  simp

/-- An address is subscribed to after a turn as is wanted, or as before if nothing is wanted. -/
theorem mem_subscribed_turned {url : String} :
    url ∈ (store.turned userId selected subscribed time).subscribed userId ↔
      if selected url then url ∈ store.catalogued userId ∧ subscribed = true
      else url ∈ store.subscribed userId := by
  unfold Store.subscribed
  rw [entries_turned]
  constructor
  · rintro ⟨_, hafter, howner, hurl, hsubscribed⟩
    obtain ⟨podcast, hmem, rfl⟩ := List.mem_map.mp hafter
    rw [user_id_settle] at howner
    rw [url_settle] at hurl
    rw [subscribed_settle howner, hurl] at hsubscribed
    unfold side at hsubscribed
    split
    · next hselected =>
        rw [if_pos hselected] at hsubscribed
        exact ⟨⟨podcast, hmem, howner, hurl⟩, hsubscribed⟩
    · next hselected =>
        rw [if_neg hselected] at hsubscribed
        exact ⟨podcast, hmem, howner, hurl, hsubscribed⟩
  · intro hwanted
    obtain ⟨podcast, hmem, howner, hurl, hsubscribed⟩ :
        ∃ podcast ∈ store.podcasts.entries, podcast.row.userId = userId ∧ podcast.row.url = url ∧
          (side selected subscribed url).getD podcast.row.subscribed = true := by
      unfold side
      split at hwanted
      · next hselected =>
          obtain ⟨⟨podcast, hmem, howner, hurl⟩, hsubscribed⟩ := hwanted
          rw [if_pos hselected]
          exact ⟨podcast, hmem, howner, hurl, hsubscribed⟩
      · next hselected =>
          rw [if_neg hselected]
          exact hwanted
    refine ⟨_, List.mem_map_of_mem hmem, ?_, ?_, ?_⟩
    · rw [user_id_settle, howner]
    · rw [url_settle, hurl]
    · rw [subscribed_settle howner, hurl, hsubscribed]

/-- Consistency survives. -/
theorem Consistent.after_turn (hconsistent : store.Consistent) :
    (store.turned userId selected subscribed time).Consistent :=
  hconsistent.turn _ _ _

/-! ## Reports -/

/-- A podcast is reported exactly if it was to be turned, as it is after the turn. -/
theorem mem_turned_rows {podcast : Entry Podcast} :
    podcast ∈ store.turnedRows userId selected subscribed time ↔
      ∃ old ∈ store.podcasts.entries, old.row.userId = userId ∧ selected old.row.url = true ∧
        old.row.subscribed ≠ subscribed ∧
        podcast = ⟨old.id, { old.row with subscribed, updatedAt := time.stored }⟩ := by
  unfold turnedRows
  rw [List.mem_mergeSort, List.mem_map]
  constructor
  · rintro ⟨old, hmem, rfl⟩
    obtain ⟨hmem, hturned⟩ := List.mem_filter.mp hmem
    obtain ⟨howner, hselected, hother⟩ := is_turned_iff.mp hturned
    exact ⟨old, hmem, howner, hselected, hother, by rw [Podcast.turn_of_ne hother]⟩
  · rintro ⟨old, hmem, howner, hselected, hother, rfl⟩
    refine ⟨old, List.mem_filter.mpr ⟨hmem, is_turned_iff.mpr ⟨howner, hselected, hother⟩⟩, ?_⟩
    rw [Podcast.turn_of_ne hother]

/-- What is to be turned stays so when other addresses are turned before. -/
theorem turned_rows_turned {first second : String → Bool} {firstSide secondSide : Bool}
    {firstTime : Instant} (hdisjoint : ∀ url, first url = true → second url = false) :
    (store.turned userId first firstSide firstTime).turnedRows userId second secondSide time =
      store.turnedRows userId second secondSide time := by
  have hkept : ∀ podcast : Entry Podcast, second podcast.row.url = true →
      settle userId (side first firstSide) firstTime.stored podcast = podcast := by
    intro podcast hselected
    refine settle_of_none (if_neg fun hfirst => ?_)
    rw [hdisjoint _ hfirst] at hselected
    cases hselected
  -- A podcast that is selected second was not selected first, so it is the same before and after.
  have hsame : ∀ podcast : Entry Podcast,
      isTurned userId second secondSide
          (settle userId (side first firstSide) firstTime.stored podcast) =
        isTurned userId second secondSide podcast := by
    intro podcast
    by_cases hselected : second podcast.row.url = true
    · rw [hkept podcast hselected]
    · rw [Bool.not_eq_true] at hselected
      simp [isTurned, hselected]
  unfold turnedRows
  rw [entries_turned, List.filter_map, List.map_map]
  simp only [Function.comp_def, hsame]
  congr 1
  refine List.map_congr_left fun podcast hmem => ?_
  rw [hkept podcast (is_turned_iff.mp (List.mem_filter.mp hmem).2).2.1]

/-- What is reported is in the store then. -/
theorem mem_of_turned_rows {podcast : Entry Podcast}
    (hmem : podcast ∈ store.turnedRows userId selected subscribed time) :
    podcast ∈ (store.turned userId selected subscribed time).podcasts.entries ∧
      podcast.row.userId = userId ∧ podcast.row.subscribed = subscribed ∧
      podcast.row.updatedAt = time.stored ∧ selected podcast.row.url = true := by
  obtain ⟨old, hold, howner, hselected, hother, rfl⟩ := mem_turned_rows.mp hmem
  refine ⟨?_, howner, rfl, rfl, hselected⟩
  rw [entries_turned]
  refine List.mem_map.mpr ⟨old, hold, ?_⟩
  rw [settle_of_some howner (if_pos hselected), Podcast.turn_of_ne hother]

/-- The report ascends strictly by addresses. -/
theorem Consistent.turned_rows_ascending (hconsistent : store.Consistent) :
    (store.turnedRows userId selected subscribed time).Pairwise fun first second =>
      first.row.url < second.row.url := by
  have hunique : store.podcasts.entries.Pairwise fun first second =>
      (first.row.userId, first.row.url) ≠ (second.row.userId, second.row.url) :=
    List.pairwise_map.mp hconsistent.podcasts_unique
  refine Table.ascending_merge_sort (fun podcast : Entry Podcast => podcast.row.url)
    (List.pairwise_map.mpr ((hunique.filter _).imp_of_mem ?_))
  intro first second hfirst hsecond hkeys hurl
  simp only [List.mem_filter, isTurned, Bool.and_eq_true, beq_iff_eq] at hfirst hsecond
  rw [Podcast.url_turn, Podcast.url_turn] at hurl
  exact hkeys (Prod.ext (hfirst.2.1.1.trans hsecond.2.1.1.symm) hurl)

/-- New subscriptions are reported: the selected addresses of the catalog that were not subscribed
to. -/
theorem Consistent.addresses_turned_on (hconsistent : store.Consistent) :
    addresses (store.turnedRows userId selected true time) =
      {url ∈ store.catalogued userId | selected url = true} \ store.subscribed userId := by
  refine Set.ext fun url => ⟨?_, ?_⟩
  · rintro ⟨podcast, hmem, rfl⟩
    obtain ⟨old, hold, howner, hselected, hother, rfl⟩ := mem_turned_rows.mp hmem
    refine ⟨⟨⟨old, hold, howner, rfl⟩, hselected⟩, fun hsubscribed => hother ?_⟩
    exact (hconsistent.subscribed_iff hold howner).mpr hsubscribed
  · rintro ⟨⟨⟨old, hold, howner, rfl⟩, hselected⟩, hended⟩
    have hother : old.row.subscribed ≠ true := fun hsubscribed =>
      hended ⟨old, hold, howner, rfl, hsubscribed⟩
    exact ⟨_, mem_turned_rows.mpr ⟨old, hold, howner, hselected, hother, rfl⟩, rfl⟩

/-- Ends of subscriptions are reported: the selected addresses that were subscribed to. -/
theorem addresses_turned_off :
    addresses (store.turnedRows userId selected false time) =
      {url ∈ store.subscribed userId | selected url = true} := by
  refine Set.ext fun url => ⟨?_, ?_⟩
  · rintro ⟨podcast, hmem, rfl⟩
    obtain ⟨old, hold, howner, hselected, hother, rfl⟩ := mem_turned_rows.mp hmem
    exact ⟨⟨old, hold, howner, rfl, by simpa using hother⟩, hselected⟩
  · rintro ⟨⟨old, hold, howner, rfl, hsubscribed⟩, hselected⟩
    have hother : old.row.subscribed ≠ false := by simp [hsubscribed]
    exact ⟨_, mem_turned_rows.mpr ⟨old, hold, howner, hselected, hother, rfl⟩, rfl⟩

end Store

end PodcastLedger
