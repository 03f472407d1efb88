import PodcastLedger.Proofs.Canonical.Storable
import PodcastLedger.Proofs.Uploads.Turning

/-!
# Catalogued podcasts

What finding or adding podcasts does: the catalog of the user gains the addresses that it did not
have (`Store.catalogued_with_podcasts`), with rows that were never subscribed to
(`Store.of_mem_with_podcasts`), and nothing else changes. That every canonical form can be added is
`Store.insert_canonical_all`.
-/

namespace PodcastLedger.Store

variable {store next : Store} {userId : Int} {url : String} {urls : List String} {time : Instant}
  {selected : String → Bool} {subscribed : Bool}

/-- The store with a podcast of the address. -/
def withPodcast (store : Store) (userId : Int) (url : String) : Store :=
  match store.findPodcast? userId url with
  | some _ => store
  | none => { store with podcasts := store.podcasts.insert (.fresh userId url) }

/-- The store with podcasts of all the addresses. -/
def withPodcasts (store : Store) (userId : Int) : List String → Store
  | [] => store
  | url :: urls => (store.withPodcast userId url).withPodcasts userId urls

/-- What is in the catalog need not be added. -/
theorem with_podcast_of_mem (hmem : url ∈ store.catalogued userId) :
    store.withPodcast userId url = store := by
  unfold withPodcast
  split
  · rfl
  · next hnew => exact absurd hmem (find_podcast_eq_none_iff.mp hnew)

/-- What is not in the catalog is added. -/
theorem with_podcast_of_not_mem (hnew : url ∉ store.catalogued userId) :
    store.withPodcast userId url =
      { store with podcasts := store.podcasts.insert (.fresh userId url) } := by
  unfold withPodcast
  rw [find_podcast_eq_none_iff.mpr hnew]

/-- The tables but that of podcasts stay. -/
theorem with_podcast_eq (store : Store) (userId : Int) (url : String) :
    store.withPodcast userId url =
      { store with podcasts := (store.withPodcast userId url).podcasts } := by
  unfold withPodcast
  split <;> rfl

/-- The tables but that of podcasts stay. -/
theorem with_podcasts_eq (store : Store) (userId : Int) (urls : List String) :
    store.withPodcasts userId urls =
      { store with podcasts := (store.withPodcasts userId urls).podcasts } := by
  induction urls generalizing store with
  | nil => rfl
  | cons url urls ih =>
      unfold withPodcasts
      rw [ih, with_podcast_eq]

/-- The users stay. -/
@[simp] theorem users_with_podcast : (store.withPodcast userId url).users = store.users := by
  rw [with_podcast_eq]

/-- A podcast is found or added exactly if its row meets the constraints. -/
theorem insert_podcast_iff {podcast : Entry Podcast} :
    store.insertPodcast userId url = .ok (next, podcast) ↔
      (IsBindable url ∧ IsWebUrl url ∧ store.users.Has userId) ∧
        next = store.withPodcast userId url ∧ next.findPodcast? userId url = some podcast := by
  simp only [insertPodcast, bind_eq_ok_iff, require_eq_ok_iff]
  -- The row that is found is the one that is read, and a new row is found in the last place.
  cases hfind : store.findPodcast? userId url with
  | some found =>
      have hnext : store.withPodcast userId url = store := by rw [withPodcast, hfind]
      rw [hnext]
      constructor
      · rintro ⟨_, hvalid, h⟩
        cases h
        exact ⟨hvalid, rfl, hfind⟩
      · rintro ⟨hvalid, rfl, hread⟩
        rw [hfind] at hread
        cases hread
        exact ⟨(), hvalid, rfl⟩
  | none =>
      have hnext := with_podcast_of_not_mem (find_podcast_eq_none_iff.mp hfind)
      have hread : (store.withPodcast userId url).findPodcast? userId url =
          some ⟨store.podcasts.next, .fresh userId url⟩ := by
        rw [hnext]
        exact Table.find_insert_new hfind (by simp [Podcast.fresh])
      constructor
      · rintro ⟨_, hvalid, h⟩
        cases h
        exact ⟨hvalid, hnext.symm, hnext ▸ hread⟩
      · rintro ⟨hvalid, rfl, hother⟩
        rw [hread] at hother
        cases hother
        rw [hnext]
        exact ⟨(), hvalid, rfl⟩

/-- Podcasts are found or added exactly if all their rows meet the constraints. -/
theorem insert_podcasts_iff :
    store.insertPodcasts userId urls = .ok next ↔
      (∀ url ∈ urls, IsBindable url ∧ IsWebUrl url ∧ store.users.Has userId) ∧
        next = store.withPodcasts userId urls := by
  induction urls generalizing store with
  | nil => simp [insertPodcasts, withPodcasts, eq_comm]
  | cons url urls ih =>
      simp only [insertPodcasts, bind_eq_ok_iff, Prod.exists, insert_podcast_iff, ih]
      constructor
      · rintro ⟨_, podcast, ⟨hvalid, rfl, _⟩, hrest, rfl⟩
        rw [users_with_podcast] at hrest
        exact ⟨List.forall_mem_cons.mpr ⟨hvalid, hrest⟩, rfl⟩
      · rintro ⟨hall, rfl⟩
        obtain ⟨hvalid, hrest⟩ := List.forall_mem_cons.mp hall
        obtain ⟨podcast, hfind⟩ : ∃ podcast,
            (store.withPodcast userId url).findPodcast? userId url = some podcast := by
          have hinsert : ∃ result, store.insertPodcast userId url = .ok result := by
            unfold insertPodcast
            rw [require_of hvalid]
            simp only [bind, Except.bind]
            split <;> exact ⟨_, rfl⟩
          obtain ⟨⟨_, podcast⟩, hinsert⟩ := hinsert
          obtain ⟨_, rfl, hfind⟩ := insert_podcast_iff.mp hinsert
          exact ⟨podcast, hfind⟩
        refine ⟨_, podcast, ⟨hvalid, rfl, hfind⟩, ?_, rfl⟩
        rw [users_with_podcast]
        exact hrest

/-- The canonical forms of a list can be added for any user there is. -/
theorem insert_canonical_all (huser : store.users.Has userId) (raws : List String) :
    store.insertPodcasts userId (Web.canonicalAll raws) =
      .ok (store.withPodcasts userId (Web.canonicalAll raws)) := by
  refine insert_podcasts_iff.mpr ⟨fun url hmem => ?_, rfl⟩
  obtain ⟨hbindable, hweb⟩ := Web.storable_of_mem_all url hmem
  exact ⟨hbindable, hweb, huser⟩

/-! ## Rows -/

/-- The rows there are stay. -/
theorem mem_with_podcast {podcast : Entry Podcast} (hmem : podcast ∈ store.podcasts.entries) :
    podcast ∈ (store.withPodcast userId url).podcasts.entries := by
  unfold withPodcast
  split
  · exact hmem
  · exact Table.mem_insert.mpr (.inl hmem)

/-- The rows there are stay. -/
theorem mem_with_podcasts {podcast : Entry Podcast} (hmem : podcast ∈ store.podcasts.entries) :
    podcast ∈ (store.withPodcasts userId urls).podcasts.entries := by
  induction urls generalizing store with
  | nil => exact hmem
  | cons url urls ih => exact ih (mem_with_podcast hmem)

/-- The catalog has the address then. -/
@[simp] theorem catalogued_with_podcast :
    (store.withPodcast userId url).catalogued userId = store.catalogued userId ∪ {url} := by
  by_cases hknown : url ∈ store.catalogued userId
  · rw [with_podcast_of_mem hknown, Set.union_eq_self_of_subset_right]
    exact Set.singleton_subset_iff.mpr hknown
  · rw [with_podcast_of_not_mem hknown]
    refine Set.ext fun other => ⟨?_, ?_⟩
    · rintro ⟨podcast, hmem, howner, rfl⟩
      rcases Table.mem_insert.mp hmem with hold | rfl
      · exact .inl ⟨podcast, hold, howner, rfl⟩
      · exact .inr rfl
    · rintro (⟨podcast, hmem, howner, hurl⟩ | rfl)
      · exact ⟨podcast, Table.mem_insert.mpr (.inl hmem), howner, hurl⟩
      · exact ⟨_, Table.mem_insert.mpr (.inr rfl), rfl, rfl⟩

/-- The catalog has all the addresses then. -/
@[simp] theorem catalogued_with_podcasts :
    (store.withPodcasts userId urls).catalogued userId =
      store.catalogued userId ∪ {url | url ∈ urls} := by
  induction urls generalizing store with
  | nil => simp [withPodcasts]
  | cons url urls ih =>
      unfold withPodcasts
      rw [ih, catalogued_with_podcast, Set.union_assoc]
      congr 1
      ext other
      simp

/-- A row is an old one, or a new one of an address that was not in the catalog. -/
theorem of_mem_with_podcasts {podcast : Entry Podcast}
    (hmem : podcast ∈ (store.withPodcasts userId urls).podcasts.entries) :
    podcast ∈ store.podcasts.entries ∨
      ∃ url ∈ urls, url ∉ store.catalogued userId ∧ podcast.row = .fresh userId url := by
  induction urls generalizing store with
  | nil => exact .inl hmem
  | cons url urls ih =>
      rcases ih hmem with hfirst | ⟨other, hother, hnew, hrow⟩
      · by_cases hknown : url ∈ store.catalogued userId
        · rw [with_podcast_of_mem hknown] at hfirst
          exact .inl hfirst
        · rw [with_podcast_of_not_mem hknown] at hfirst
          rcases Table.mem_insert.mp hfirst with hold | rfl
          · exact .inl hold
          · exact .inr ⟨url, List.mem_cons_self, hknown, rfl⟩
      · rw [catalogued_with_podcast] at hnew
        exact .inr ⟨other, List.mem_cons_of_mem _ hother, fun hknown => hnew (.inl hknown), hrow⟩

/-- Nothing is subscribed to by adding podcasts. -/
@[simp] theorem subscribed_with_podcasts :
    (store.withPodcasts userId urls).subscribed userId = store.subscribed userId := by
  refine Set.ext fun url => ⟨?_, ?_⟩
  · rintro ⟨podcast, hmem, howner, hurl, hsubscribed⟩
    rcases of_mem_with_podcasts hmem with hold | ⟨_, _, _, hrow⟩
    · exact ⟨podcast, hold, howner, hurl, hsubscribed⟩
    · rw [hrow] at hsubscribed
      cases hsubscribed
  · rintro ⟨podcast, hmem, howner, hurl, hsubscribed⟩
    exact ⟨podcast, mem_with_podcasts hmem, howner, hurl, hsubscribed⟩

/-- Nothing is added if the catalog has all the addresses. -/
theorem with_podcasts_of_subset (hknown : ∀ url ∈ urls, url ∈ store.catalogued userId) :
    store.withPodcasts userId urls = store := by
  induction urls with
  | nil => rfl
  | cons url urls ih =>
      obtain ⟨hfirst, hrest⟩ := List.forall_mem_cons.mp hknown
      unfold withPodcasts
      rw [with_podcast_of_mem hfirst]
      exact ih hrest

/-- Consistency survives. -/
theorem Consistent.with_podcast (hconsistent : store.Consistent) (huser : store.users.Has userId)
    (url : String) : (store.withPodcast userId url).Consistent := by
  unfold withPodcast
  split
  · exact hconsistent
  · next hnew => exact hconsistent.insert_podcast huser hnew

/-- Consistency survives. -/
theorem Consistent.with_podcasts (hconsistent : store.Consistent) (huser : store.users.Has userId)
    (urls : List String) : (store.withPodcasts userId urls).Consistent := by
  induction urls generalizing store with
  | nil => exact hconsistent
  | cons url urls ih =>
      refine ih (hconsistent.with_podcast huser url) ?_
      rw [users_with_podcast]
      exact huser

/-- Podcasts may be turned before or after an address is added that is not among those to turn. -/
theorem with_podcast_turned (hother : selected url = false) :
    (store.turned userId selected subscribed time).withPodcast userId url =
      (store.withPodcast userId url).turned userId selected subscribed time := by
  by_cases hknown : url ∈ store.catalogued userId
  · rw [with_podcast_of_mem hknown, with_podcast_of_mem (by rwa [catalogued_turned])]
  · rw [with_podcast_of_not_mem hknown, with_podcast_of_not_mem (by rwa [catalogued_turned])]
    have htable : ((store.turned userId selected subscribed time).podcasts.insert
          (.fresh userId url)) =
        ((store.podcasts.insert (.fresh userId url)).modify
          (isTurned userId selected subscribed) (·.turn subscribed time.stored)) := by
      refine Table.ext ?_ rfl
      simp [turned, isTurned, Podcast.fresh, hother]
      -- Turning gives out no ids.
      rfl
    unfold turned at htable ⊢
    rw [htable]

/-- Podcasts may be turned before or after addresses are added that are not among those to turn. -/
theorem with_podcasts_turned (hother : ∀ url ∈ urls, selected url = false) :
    (store.turned userId selected subscribed time).withPodcasts userId urls =
      (store.withPodcasts userId urls).turned userId selected subscribed time := by
  induction urls generalizing store with
  | nil => rfl
  | cons url urls ih =>
      obtain ⟨hfirst, hrest⟩ := List.forall_mem_cons.mp hother
      unfold withPodcasts
      rw [with_podcast_turned hfirst]
      exact ih hrest

/-- The rows to turn are the same after an address is added that is not among those to turn. -/
theorem turned_rows_with_podcast (hother : selected url = false) :
    (store.withPodcast userId url).turnedRows userId selected subscribed time =
      store.turnedRows userId selected subscribed time := by
  by_cases hknown : url ∈ store.catalogued userId
  · rw [with_podcast_of_mem hknown]
  · rw [with_podcast_of_not_mem hknown]
    have hkept : isTurned userId selected subscribed
        ⟨store.podcasts.next, .fresh userId url⟩ = false := by
      simp [isTurned, Podcast.fresh, hother]
    unfold turnedRows
    rw [Table.entries_insert, List.filter_append, List.filter_singleton, hkept]
    simp

/-- The rows to turn are the same after addresses are added that are not among those to turn. -/
theorem turned_rows_with_podcasts (hother : ∀ url ∈ urls, selected url = false) :
    (store.withPodcasts userId urls).turnedRows userId selected subscribed time =
      store.turnedRows userId selected subscribed time := by
  induction urls generalizing store with
  | nil => rfl
  | cons url urls ih =>
      obtain ⟨hfirst, hrest⟩ := List.forall_mem_cons.mp hother
      exact (ih hrest).trans (turned_rows_with_podcast hfirst)

end PodcastLedger.Store
