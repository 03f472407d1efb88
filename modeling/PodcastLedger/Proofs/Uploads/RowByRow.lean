import PodcastLedger.Proofs.Statements.Plain
import PodcastLedger.Proofs.Uploads.Uploaded

/-!
# Uploads row by row

Uploads with one plain statement for each row: `Store.replaceRowByRow` reads the podcasts of the user
once, walks over them in some order to end subscriptions, and looks the addresses up in what it read;
`Store.changeRowByRow` looks each address up in the store. They have the outcomes of the uploads that
write each side in one statement (`Store.Consistent.replace_row_by_row`,
`Store.Consistent.change_row_by_row`), but that the order of the rows may show in the answer.
-/

namespace PodcastLedger.Store

open RowStatements (plain)

variable {store : Store} {userId : Int} {url : String} {urls : List String} {subscribed : Bool}
  {selected : String → Bool} {time : Instant}

/-! ## One row -/

/-- The report of a turn is the one ascending list of its rows. -/
theorem Consistent.eq_turned_rows (hconsistent : store.Consistent) {rows : List (Entry Podcast)}
    (hascending : rows.Pairwise fun first second => first.row.url < second.row.url)
    (hmem : ∀ podcast, podcast ∈ rows ↔
      podcast ∈ store.turnedRows userId selected subscribed time) :
    rows = store.turnedRows userId selected subscribed time :=
  Table.eq_of_ascending (·.row.url) hascending hconsistent.turned_rows_ascending hmem

/-- If nothing is to be turned, the store stays. -/
theorem turned_of_rows_eq_nil (hnil : store.turnedRows userId selected subscribed time = []) :
    store.turned userId selected subscribed time = store := by
  unfold turned
  rw [Table.modify_of_none]
  intro podcast hmem
  have hnone := List.filter_eq_nil_iff.mp (turned_rows_eq_nil_iff.mp hnil) podcast hmem
  rwa [Bool.not_eq_true] at hnone

/-- The rows to turn depend on the selection among the podcasts of the user only. -/
theorem is_turned_congr {first second : String → Bool}
    (hsame : ∀ podcast ∈ store.podcasts.entries, podcast.row.userId = userId →
      first podcast.row.url = second podcast.row.url) :
    ∀ podcast ∈ store.podcasts.entries,
      isTurned userId first subscribed podcast = isTurned userId second subscribed podcast := by
  intro podcast hmem
  by_cases howner : podcast.row.userId = userId
  · simp only [isTurned, hsame podcast hmem howner]
  · simp only [isTurned, beq_eq_false_iff_ne.mpr howner, Bool.false_and]

/-- What is turned depends on the selection among the podcasts of the user only. -/
theorem turned_congr {first second : String → Bool}
    (hsame : ∀ podcast ∈ store.podcasts.entries, podcast.row.userId = userId →
      first podcast.row.url = second podcast.row.url) :
    store.turned userId first subscribed time = store.turned userId second subscribed time := by
  unfold turned
  congr 1
  refine Table.ext (List.map_congr_left fun podcast hmem => ?_) rfl
  rw [is_turned_congr hsame podcast hmem]

/-- A turn depends on the selection among the podcasts of the user only. -/
theorem turn_podcasts_congr {first second : String → Bool}
    (hsame : ∀ podcast ∈ store.podcasts.entries, podcast.row.userId = userId →
      first podcast.row.url = second podcast.row.url) :
    store.turnPodcasts userId first subscribed time =
      store.turnPodcasts userId second subscribed time := by
  rw [turn_podcasts_eq, turn_podcasts_eq, turned_congr hsame, turnedRows, turnedRows,
    List.filter_congr (is_turned_congr hsame)]

/-- The one podcast of the address is turned if it is not as wanted. -/
theorem Consistent.turned_rows_single (hconsistent : store.Consistent) {podcast : Entry Podcast}
    (hmem : podcast ∈ store.podcasts.entries) (howner : podcast.row.userId = userId) :
    store.turnedRows userId (· == podcast.row.url) subscribed time =
      if podcast.row.subscribed = subscribed then []
      else [⟨podcast.id, { podcast.row with subscribed, updatedAt := time.stored }⟩] := by
  refine (hconsistent.eq_turned_rows ?_ fun other => ?_).symm
  · split
    · exact List.Pairwise.nil
    · exact List.pairwise_singleton _ _
  · rw [mem_turned_rows]
    constructor
    · intro hother
      split at hother
      · cases hother
      · next hside =>
          obtain rfl := List.mem_singleton.mp hother
          exact ⟨podcast, hmem, howner, beq_self_eq_true _, hside, rfl⟩
    · rintro ⟨old, hold, holdOwner, hurl, hside, rfl⟩
      obtain rfl := hconsistent.podcast_eq hold hmem holdOwner howner (beq_iff_eq.mp hurl)
      rw [if_neg hside]
      exact List.mem_singleton.mpr rfl

/-- To turn a row is to turn the podcasts of its address. -/
theorem Consistent.turn_row_eq (hconsistent : store.Consistent) {podcast : Entry Podcast}
    (hmem : podcast ∈ store.podcasts.entries) (howner : podcast.row.userId = userId) :
    (plain.turnRow podcast subscribed time).whole store =
      store.turnPodcasts userId (· == podcast.row.url) subscribed time := by
  have hrows : store.turnedRows userId (· == podcast.row.url) subscribed time = _ :=
    hconsistent.turned_rows_single hmem howner
  rw [turn_podcasts_eq]
  unfold RowStatements.turnRow
  split
  · next hsame =>
      rw [if_pos hsame] at hrows
      rw [turned_of_rows_eq_nil hrows, hrows]
      exact (if_pos (.inl rfl)).symm
  · next hother =>
      rw [if_neg hother] at hrows
      -- The row under the id is the one of the user and address.
      have htable :
          store.podcasts.modify (fun entry => entry.id == podcast.id)
              (fun row => { row with subscribed, updatedAt := time.stored }) =
            store.podcasts.modify (isTurned userId (· == podcast.row.url) subscribed)
              (·.turn subscribed time.stored) := by
        refine Table.ext (List.map_congr_left fun entry hentry => ?_) rfl
        by_cases hid : entry.id = podcast.id
        · obtain rfl := store.podcasts.eq_of_id_eq hentry hmem hid
          have hturned : isTurned userId (· == entry.row.url) subscribed entry = true :=
            is_turned_iff.mpr ⟨howner, beq_self_eq_true _, hother⟩
          rw [if_pos (beq_self_eq_true _), if_pos hturned]
          exact congrArg (Entry.mk entry.id) (Podcast.turn_of_ne hother time.stored).symm
        · rw [if_neg (by simpa using hid), if_neg]
          intro hturned
          obtain ⟨hentryOwner, hurl, _⟩ := is_turned_iff.mp hturned
          exact hid (congrArg Entry.id
            (hconsistent.podcast_eq hentry hmem hentryOwner howner (beq_iff_eq.mp hurl)))
      have hread :
          (store.podcasts.modify (isTurned userId (· == podcast.row.url) subscribed)
              (·.turn subscribed time.stored)).get? podcast.id =
            some ⟨podcast.id, { podcast.row with subscribed, updatedAt := time.stored }⟩ := by
        refine Table.get?_eq_some_iff.mpr ⟨?_, rfl⟩
        exact (mem_of_turned_rows (hrows ▸ List.mem_singleton.mpr rfl)).1
      show (store.updateSubscription podcast subscribed time >>= fun reached =>
        .ok (reached.1, [reached.2])) = _
      unfold updateSubscription
      rw [htable, hrows]
      simp only [hread, reporting]
      by_cases hstorable : time.IsStorable
      · rw [require_of hstorable, if_pos (.inr hstorable)]
        rfl
      · rw [require, if_neg hstorable, if_neg (by simp [hstorable])]
        rfl

/-! ## Rows of addresses -/

/-- To turn podcasts of ascending addresses is to turn those of the first and then the others. -/
theorem Consistent.turn_podcasts_cons (hconsistent : store.Consistent)
    (hless : ∀ other ∈ urls, url < other) :
    store.turnPodcasts userId (url :: urls).contains subscribed time =
      (do
        let (store, first) ← store.turnPodcasts userId (· == url) subscribed time
        let (store, others) ← store.turnPodcasts userId urls.contains subscribed time
        .ok (store, first ++ others)) := by
  have hdisjoint : ∀ other, (other == url) = true → urls.contains other = false := by
    intro other hother
    obtain rfl := beq_iff_eq.mp hother
    rw [← Bool.not_eq_true, List.contains_iff_mem]
    exact fun hmem => String.lt_irrefl _ (hless other hmem)
  have hrows : store.turnedRows userId (url :: urls).contains subscribed time =
      store.turnedRows userId (· == url) subscribed time ++
        store.turnedRows userId urls.contains subscribed time := by
    refine (hconsistent.eq_turned_rows ?_ fun podcast => ?_).symm
    · refine List.pairwise_append.mpr ⟨hconsistent.turned_rows_ascending,
        hconsistent.turned_rows_ascending, fun first hfirst second hsecond => ?_⟩
      obtain ⟨_, _, _, _, hfirstUrl⟩ := mem_of_turned_rows hfirst
      obtain ⟨_, _, _, _, hsecondUrl⟩ := mem_of_turned_rows hsecond
      rw [beq_iff_eq.mp hfirstUrl]
      exact hless _ (List.contains_iff_mem.mp hsecondUrl)
    · rw [List.mem_append, mem_turned_rows, mem_turned_rows, mem_turned_rows]
      simp only [List.contains_cons, Bool.or_eq_true, ← exists_or]
      refine exists_congr fun old => ?_
      tauto
  have hstore : (store.turned userId (· == url) subscribed time).turned userId urls.contains
      subscribed time = store.turned userId (url :: urls).contains subscribed time := by
    rw [turned_turned hdisjoint]
    exact turned_congr fun podcast _ _ => List.contains_cons.symm
  rw [turn_podcasts_eq, turn_podcasts_eq, hrows]
  refine (reporting_append (·.turnPodcasts userId urls.contains subscribed time) ?_).symm
  rw [turn_podcasts_eq, turned_rows_turned hdisjoint, hstore]

/-- Without addresses nothing is turned. -/
theorem turn_podcasts_nil :
    store.turnPodcasts userId ([] : List String).contains subscribed time = .ok (store, []) := by
  have hrows : store.turnedRows userId ([] : List String).contains subscribed time = [] := by
    rw [turned_rows_eq_nil_iff]
    simp [isTurned]
  rw [turn_podcasts_eq, turned_of_rows_eq_nil hrows, hrows]
  exact if_pos (.inl rfl)

/-- A podcast that is not of the address stays when the address is turned. -/
theorem mem_turned_single {podcast : Entry Podcast} (hmem : podcast ∈ store.podcasts.entries)
    (hother : podcast.row.url ≠ url) :
    podcast ∈ (store.turned userId (· == url) subscribed time).podcasts.entries := by
  rw [entries_turned]
  refine List.mem_map.mpr ⟨podcast, hmem, settle_of_none (if_neg ?_)⟩
  simpa using hother

/-- Known from before or not, the podcast of the address is in the catalog then. -/
theorem take_podcast_ok (huser : store.users.Has userId) (hbindable : IsBindable url)
    (hweb : IsWebUrl url) {known : List (Entry Podcast)}
    (hknown : ∀ podcast ∈ known, podcast.row.url = url →
      podcast ∈ store.podcasts.entries ∧ podcast.row.userId = userId) :
    ∃ podcast,
      (plain.takePodcast userId known url).whole store =
        .ok (store.withPodcast userId url, podcast) ∧
      podcast ∈ (store.withPodcast userId url).podcasts.entries ∧ podcast.row.userId = userId ∧
        podcast.row.url = url := by
  unfold RowStatements.takePodcast
  cases hfind : known.find? fun podcast => podcast.row.url == url with
  | some podcast =>
      have hurl : podcast.row.url = url := by simpa using List.find?_some hfind
      obtain ⟨hmem, howner⟩ := hknown podcast (List.mem_of_find?_eq_some hfind) hurl
      refine ⟨podcast, ?_, mem_with_podcast hmem, howner, hurl⟩
      rw [with_podcast_of_mem ⟨podcast, hmem, howner, hurl⟩]
      rfl
  | none =>
      have hcatalogued : url ∈ (store.withPodcast userId url).catalogued userId := by
        rw [catalogued_with_podcast]
        exact .inr rfl
      obtain ⟨podcast, hread⟩ := Option.ne_none_iff_exists'.mp fun hnone =>
        find_podcast_eq_none_iff.mp hnone hcatalogued
      exact ⟨podcast, insert_podcast_iff.mpr ⟨⟨hbindable, hweb, huser⟩, rfl, hread⟩,
        mem_of_find_podcast hread⟩

/-- To subscribe to addresses one after the other is to catalogue all and turn all. -/
theorem Consistent.subscribe_each_eq (hconsistent : store.Consistent)
    (huser : store.users.Has userId) (hascending : urls.Pairwise (· < ·))
    (hstorable : ∀ url ∈ urls, IsBindable url ∧ IsWebUrl url) {known : List (Entry Podcast)}
    (hknown : ∀ podcast ∈ known, podcast.row.url ∈ urls →
      podcast ∈ store.podcasts.entries ∧ podcast.row.userId = userId) :
    (plain.subscribeEach userId known time urls).whole store =
      (store.withPodcasts userId urls).turnPodcasts userId urls.contains true time := by
  induction urls generalizing store known with
  | nil => exact turn_podcasts_nil.symm
  | cons url urls ih =>
      obtain ⟨hless, hascending⟩ := List.pairwise_cons.mp hascending
      obtain ⟨⟨hbindable, hweb⟩, hstorable⟩ := List.forall_mem_cons.mp hstorable
      obtain ⟨podcast, htake, hmem, howner, hurl⟩ := take_podcast_ok huser hbindable hweb
        fun podcast hpodcast hurl => hknown podcast hpodcast (hurl ▸ List.mem_cons_self)
      have hfirst := hconsistent.with_podcast huser url
      have hfirstUser : (store.withPodcast userId url).users.Has userId := by
        rwa [users_with_podcast]
      have hdisjoint : ∀ other ∈ urls, (other == url) = false := fun other hother =>
        beq_eq_false_iff_ne.mpr fun heq => String.lt_irrefl _ (heq ▸ hless other hother)
      -- The first podcast may be turned before the others are catalogued.
      have hcommute :
          ((store.withPodcast userId url).withPodcasts userId urls).turnPodcasts userId (· == url)
              true time =
            ((store.withPodcast userId url).turnPodcasts userId (· == url) true time).map
              fun result => (result.1.withPodcasts userId urls, result.2) := by
        rw [turn_podcasts_eq, turn_podcasts_eq, turned_rows_with_podcasts hdisjoint,
          ← with_podcasts_turned hdisjoint]
        unfold reporting
        split <;> rfl
      unfold RowStatements.subscribeEach withPodcasts
      simp only [Procedure.whole_bind, Procedure.whole_pure]
      rw [htake, (hfirst.with_podcasts hfirstUser urls).turn_podcasts_cons hless, hcommute]
      simp only [bind, Except.bind, hfirst.turn_row_eq hmem howner, hurl]
      cases hturn : (store.withPodcast userId url).turnPodcasts userId (· == url) true time with
      | error failure => rfl
      | ok result =>
          obtain ⟨second, rows⟩ := result
          obtain ⟨_, rfl, _⟩ := turn_podcasts_iff.mp hturn
          simp only [Except.map]
          rw [ih hfirst.after_turn hfirstUser hascending hstorable]
          intro other hother hotherUrl
          obtain ⟨hother, hne⟩ := List.mem_filter.mp hother
          obtain ⟨hold, holdOwner⟩ := hknown other hother (List.mem_cons_of_mem _ hotherUrl)
          exact ⟨mem_turned_single (mem_with_podcast hold) (by simpa using hne), holdOwner⟩

/-- To end subscriptions to addresses one after the other is to turn all. -/
theorem Consistent.end_each_eq (hconsistent : store.Consistent)
    (hascending : urls.Pairwise (· < ·)) (hbindable : ∀ url ∈ urls, IsBindable url) :
    (plain.endEach userId time urls).whole store =
      store.turnPodcasts userId urls.contains false time := by
  induction urls generalizing store with
  | nil => exact turn_podcasts_nil.symm
  | cons url urls ih =>
      obtain ⟨hless, hascending⟩ := List.pairwise_cons.mp hascending
      obtain ⟨hfirst, hbindable⟩ := List.forall_mem_cons.mp hbindable
      unfold RowStatements.endEach
      rw [Procedure.whole_bind, RowStatements.plain_query, map_bind]
      unfold selectPodcast
      rw [require_of hfirst]
      cases hfind : store.findPodcast? userId url with
      | none =>
          -- Nothing is turned for an address that is not in the catalog.
          have hnew := find_podcast_eq_none_iff.mp hfind
          have hsame : store.turnPodcasts userId (url :: urls).contains false time =
              store.turnPodcasts userId urls.contains false time := by
            refine turn_podcasts_congr fun podcast hmem howner => ?_
            have hne : (podcast.row.url == url) = false :=
              beq_eq_false_iff_ne.mpr fun hurl => hnew ⟨podcast, hmem, howner, hurl⟩
            rw [List.contains_cons, hne, Bool.false_or]
          show (plain.endEach userId time urls).whole store = _
          rw [ih hconsistent hascending hbindable, hsame]
      | some podcast =>
          obtain ⟨hmem, howner, hurl⟩ := mem_of_find_podcast hfind
          show Procedure.whole (do
            let first ← plain.turnRow podcast false time
            let others ← plain.endEach userId time urls
            pure (first ++ others)) store = _
          simp only [Procedure.whole_bind, Procedure.whole_pure]
          rw [hconsistent.turn_podcasts_cons hless, hconsistent.turn_row_eq hmem howner, hurl]
          simp only [bind, Except.bind]
          cases hturn : store.turnPodcasts userId (· == url) false time with
          | error failure => rfl
          | ok result =>
              obtain ⟨second, rows⟩ := result
              obtain ⟨_, rfl, _⟩ := turn_podcasts_iff.mp hturn
              simp only [ih hconsistent.after_turn hascending hbindable]

/-! ## Rows in any order -/

/-- The rows that are turned when subscriptions are ended but for addresses to keep, as they are
then, in the order given. -/
def endedRows (userId : Int) (keeps : String → Bool) (time : Instant)
    (rows : List (Entry Podcast)) : List (Entry Podcast) :=
  (rows.filter (isTurned userId (fun url => !keeps url) false)).map fun podcast =>
    ⟨podcast.id, podcast.row.turn false time.stored⟩

/-- To end subscriptions row by row is to turn all the rows that are not kept. -/
theorem Consistent.end_rows_eq (hconsistent : store.Consistent) {keeps : String → Bool}
    {rows : List (Entry Podcast)}
    (hrows : ∀ podcast ∈ rows, podcast ∈ store.podcasts.entries ∧ podcast.row.userId = userId)
    (hdistinct : rows.Pairwise fun first second => first.row.url ≠ second.row.url) :
    (plain.endRows keeps time rows).whole store =
      reporting
        (store.turned userId
          (fun url => !keeps url && rows.any fun podcast => podcast.row.url == url) false time)
        (endedRows userId keeps time rows) time := by
  induction rows generalizing store with
  | nil =>
      have hnone : store.turnedRows userId
          (fun url => !keeps url && ([] : List (Entry Podcast)).any fun podcast =>
            podcast.row.url == url) false time = [] := by
        rw [turned_rows_eq_nil_iff]
        simp [isTurned]
      rw [turned_of_rows_eq_nil hnone]
      exact (if_pos (.inl rfl)).symm
  | cons podcast rows ih =>
      obtain ⟨⟨hmem, howner⟩, hrest⟩ := List.forall_mem_cons.mp hrows
      obtain ⟨hother, hdistinct⟩ := List.pairwise_cons.mp hdistinct
      unfold RowStatements.endRows
      cases hkeeps : keeps podcast.row.url with
      | true =>
          rw [if_pos rfl, ih hconsistent hrest hdistinct]
          have hkept : isTurned userId (fun url => !keeps url) false podcast = false := by
            simp [isTurned, hkeeps]
          congr 1
          · refine turned_congr fun entry _ _ => ?_
            rw [List.any_cons]
            by_cases hurl : podcast.row.url = entry.row.url
            · rw [← hurl, hkeeps, Bool.not_true, Bool.false_and, Bool.false_and]
            · rw [beq_eq_false_iff_ne.mpr hurl, Bool.false_or]
          · unfold endedRows
            rw [List.filter_cons_of_neg (by rw [hkept]; exact Bool.false_ne_true)]
      | false =>
          simp only [Procedure.whole_bind, Procedure.whole_pure, Bool.false_eq_true, if_false]
          rw [hconsistent.turn_row_eq hmem howner, turn_podcasts_eq,
            hconsistent.turned_rows_single hmem howner]
          have hdisjoint : ∀ url, (url == podcast.row.url) = true →
              (!keeps url && rows.any fun other => other.row.url == url) = false := by
            intro url hurl
            rw [beq_iff_eq.mp hurl, Bool.and_eq_false_iff, List.any_eq_false]
            exact .inr fun other hmem heq => hother other hmem (beq_iff_eq.mp heq).symm
          have hended : endedRows userId keeps time (podcast :: rows) =
              (if podcast.row.subscribed = false then []
                else [⟨podcast.id,
                  { podcast.row with subscribed := false, updatedAt := time.stored }⟩]) ++
                endedRows userId keeps time rows := by
            unfold endedRows
            split
            · next hside =>
                rw [List.filter_cons_of_neg, List.nil_append]
                simp [isTurned, hside]
            · next hside =>
                rw [List.filter_cons_of_pos, List.map_cons, Podcast.turn_of_ne hside]
                · rfl
                · exact is_turned_iff.mpr ⟨howner, by rw [hkeeps]; rfl, hside⟩
          rw [hended]
          refine reporting_append (plain.endRows keeps time rows).whole ?_
          rw [ih hconsistent.after_turn ?_ hdistinct, turned_turned hdisjoint]
          · congr 1
            refine turned_congr fun entry _ _ => ?_
            by_cases hurl : podcast.row.url = entry.row.url
            · simp [← hurl, hkeeps]
            · simp [beq_eq_false_iff_ne.mpr hurl, beq_eq_false_iff_ne.mpr (Ne.symm hurl)]
          · intro entry hentry
            exact ⟨mem_turned_single (hrest entry hentry).1 (hother entry hentry).symm,
              (hrest entry hentry).2⟩

/-- To walk over the podcasts of a user and end subscriptions is to turn all that are not kept, but
that the order may show in the report. -/
theorem Consistent.end_rows_agree (hconsistent : store.Consistent) {keeps : String → Bool}
    {known : List (Entry Podcast)}
    (hknown : known.Perm
      (store.podcasts.entries.filter fun podcast => podcast.row.userId == userId)) :
    Agree (fun first second => first.1 = second.1 ∧ first.2.Perm second.2)
      ((plain.endRows keeps time known).whole store)
      (store.turnPodcasts userId (fun url => !keeps url) false time) := by
  have howned : ∀ podcast, podcast ∈ known ↔
      podcast ∈ store.podcasts.entries ∧ podcast.row.userId = userId := by
    intro podcast
    rw [hknown.mem_iff, List.mem_filter, beq_iff_eq]
  have hdistinct : known.Pairwise fun first second => first.row.url ≠ second.row.url := by
    have hids := (hknown.pairwise_iff Ne.symm).mpr
      ((store.podcasts.ascending.sublist List.filter_sublist).imp
        fun {first second} hlt heq => Int.ne_of_lt hlt (congrArg Entry.id heq))
    refine hids.imp_of_mem fun hfirst hsecond hne hurl => hne ?_
    obtain ⟨hfirst, hfirstOwner⟩ := (howned _).mp hfirst
    obtain ⟨hsecond, hsecondOwner⟩ := (howned _).mp hsecond
    exact hconsistent.podcast_eq hfirst hsecond hfirstOwner hsecondOwner hurl
  have hrows : (endedRows userId keeps time known).Perm
      (store.turnedRows userId (fun url => !keeps url) false time) := by
    have hfilter : ((store.podcasts.entries.filter fun podcast => podcast.row.userId == userId).filter
          (isTurned userId (fun url => !keeps url) false)) =
        store.podcasts.entries.filter (isTurned userId (fun url => !keeps url) false) := by
      rw [List.filter_filter]
      refine List.filter_congr fun podcast _ => ?_
      simp only [isTurned]
      cases podcast.row.userId == userId <;> simp
    refine List.Perm.trans ?_ (List.mergeSort_perm _ _).symm
    rw [← hfilter]
    exact (hknown.filter _).map _
  have hstore : store.turned userId
        (fun url => !keeps url && known.any fun podcast => podcast.row.url == url) false time =
      store.turned userId (fun url => !keeps url) false time := by
    refine turned_congr fun podcast hmem howner => ?_
    have hany : (known.any fun other => other.row.url == podcast.row.url) = true :=
      List.any_eq_true.mpr ⟨podcast, (howned podcast).mpr ⟨hmem, howner⟩, beq_self_eq_true _⟩
    rw [hany, Bool.and_true]
  rw [hconsistent.end_rows_eq (fun podcast => (howned podcast).mp) hdistinct, turn_podcasts_eq,
    hstore]
  have hnil : endedRows userId keeps time known = [] ↔
      store.turnedRows userId (fun url => !keeps url) false time = [] := by
    rw [← List.perm_nil, hrows.congr_left, List.perm_nil]
  unfold reporting
  by_cases hcondition : store.turnedRows userId (fun url => !keeps url) false time = [] ∨
      time.IsStorable
  · rw [if_pos hcondition, if_pos (hcondition.imp_left hnil.mpr)]
    exact ⟨rfl, hrows⟩
  · rw [if_neg hcondition, if_neg fun hother => hcondition (hother.imp_left hnil.mp)]
    exact rfl

/-! ## Uploads -/

/-- The outcomes lead to the same store and the same answer but for the order in which ends of
subscriptions are reported. -/
def SameUpToOrder (first second : Store × SubscriptionUpdate) : Prop :=
  first.1 = second.1 ∧ first.2.unsubscribed.Perm second.2.unsubscribed ∧
    first.2 = { second.2 with unsubscribed := first.2.unsubscribed }

/-- Whatever the order of the rows, replacing subscriptions row by row has the outcome of replacing
them in one statement for each side, failures included. -/
theorem Consistent.replace_row_by_row (hconsistent : store.Consistent)
    {order : List (Entry Podcast) → List (Entry Podcast)}
    (horder : ∀ rows, (order rows).Perm rows) (userName device : String) (timestamp : Instant)
    (raws : List String) :
    Agree SameUpToOrder (store.replaceRowByRow order userName device timestamp raws)
      (store.replaceSubscriptions userName device timestamp raws) := by
  unfold replaceRowByRow RowStatements.replaceSubscriptions replaceSubscriptions
  simp only [Procedure.whole_bind, RowStatements.plain_check, RowStatements.plain_query, map_bind]
  refine Agree.after fun _ => (Agree.refl (store.loadUser userName)).bind ?_
  rintro user _ hload _ rfl
  have huser : store.users.Has user.id :=
    Table.has_of_mem (mem_of_find_user (load_user_ok hload).2.2).1
  refine (Agree.refl (store.registerDevice user.id device)).bind ?_
  rintro ⟨registered, registration⟩ _ hregister _ rfl
  obtain ⟨⟨hname, _⟩, rfl⟩ := register_device_iff.mp ⟨registration, hregister⟩
  have hregistered := hconsistent.with_device huser hname
  have hregisteredUser : (store.withDevice user.id device).users.Has user.id := by
    rwa [users_with_device]
  refine (hregistered.end_rows_agree (horder _)).bind ?_
  rintro ⟨ended, rows⟩ ⟨_, others⟩ _ hturn ⟨rfl, hperm⟩
  obtain ⟨_, rfl, _⟩ := turn_podcasts_iff.mp hturn
  have hendedUser : Table.Has
      ((store.withDevice user.id device).turned user.id
        (fun url => !(Web.canonicalAll raws).contains url) false timestamp).users user.id :=
    hregisteredUser
  dsimp only
  -- What was read of an address to subscribe to is what is stored still.
  rw [insert_canonical_all hendedUser, hregistered.after_turn.subscribe_each_eq hendedUser
    (Web.ascending_canonical_all _) Web.storable_of_mem_all]
  · refine (Agree.refl _).bind ?_
    rintro ⟨last, subscribed⟩ _ _ _ rfl
    exact ⟨rfl, hperm, rfl⟩
  · intro podcast hpodcast hurl
    obtain ⟨old, hold, rfl⟩ := List.mem_map.mp hpodcast
    obtain ⟨hmem, howner⟩ := List.mem_filter.mp ((horder _).mem_iff.mp hold)
    have hkeeps : (Web.canonicalAll raws).contains old.row.url = true := by
      split at hurl
      · assumption
      · simpa using hurl
    rw [if_pos hkeeps, entries_turned]
    refine ⟨List.mem_map.mpr ⟨old, hmem, settle_of_none (if_neg ?_)⟩, beq_iff_eq.mp howner⟩
    simp only [hkeeps, Bool.not_true, Bool.false_eq_true, not_false_eq_true]

/-- Changing subscriptions row by row has the outcome of changing them in one statement for each
side, failures included. -/
theorem Consistent.change_row_by_row (hconsistent : store.Consistent) (userName device : String)
    (timestamp : Instant) (add remove : List String) :
    store.changeRowByRow userName device timestamp add remove =
      store.changeSubscriptions userName device timestamp add remove := by
  unfold changeRowByRow RowStatements.changeSubscriptions changeSubscriptions
  rw [Procedure.whole_bind, RowStatements.plain_check, map_bind]
  refine bind_congr_of_ok fun _ _ => ?_
  dsimp only
  cases (Web.canonicalAll add).find? (Web.canonicalAll remove).contains with
  | some url => rfl
  | none =>
      simp only [Procedure.whole_bind, Procedure.whole_pure, RowStatements.plain_query, map_bind]
      refine bind_congr_of_ok fun user hload => bind_congr_of_ok ?_
      rintro ⟨registered, registration⟩ hregister
      have huser : store.users.Has user.id :=
        Table.has_of_mem (mem_of_find_user (load_user_ok hload).2.2).1
      obtain ⟨⟨hname, _⟩, rfl⟩ := register_device_iff.mp ⟨registration, hregister⟩
      have hregistered := hconsistent.with_device huser hname
      have hregisteredUser : (store.withDevice user.id device).users.Has user.id := by
        rwa [users_with_device]
      have hcatalogued := hregistered.with_podcasts hregisteredUser (Web.canonicalAll add)
      dsimp only
      rw [insert_canonical_all hregisteredUser, hregistered.subscribe_each_eq hregisteredUser
        (Web.ascending_canonical_all _) Web.storable_of_mem_all (List.forall_mem_nil _)]
      refine bind_congr_of_ok ?_
      rintro ⟨subscribed, rows⟩ hturn
      obtain ⟨_, rfl, _⟩ := turn_podcasts_iff.mp hturn
      dsimp only
      rw [hcatalogued.after_turn.end_each_eq (Web.ascending_canonical_all _)
        fun url hmem => (Web.storable_of_mem_all url hmem).1]

end PodcastLedger.Store
