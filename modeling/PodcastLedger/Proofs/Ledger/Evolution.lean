import PodcastLedger.Proofs.Ledger.Reachability

/-!
# Evolution of tables

How a table goes on from one store to a later one. `Table.Evolves` says it in both directions: the
rows of a kind are there still under their ids, and whatever is under an id that was given away
comes from the row that had the id. So no row is altered but in the way allowed, and no id is used
again. Every request but the end of an account lets the catalog evolve as a whole
(`Store.Effect.catalog_evolves`).
-/

namespace PodcastLedger

namespace Table

variable {Row : Type} {table before middle after : Table Row} {kind kind' : Row → Prop}
  {related related' composed : Row → Row → Prop}

/-- The rows of a kind are there still, and every row under an old id is what became of the row that
had the id. -/
structure Evolves (kind : Row → Prop) (related : Row → Row → Prop) (before after : Table Row) :
    Prop where
  next : before.next ≤ after.next
  carried : ∀ entry ∈ before.entries, kind entry.row →
    ∃ later ∈ after.entries, later.id = entry.id ∧ related entry.row later.row
  origin : ∀ later ∈ after.entries, later.id < before.next →
    ∃ entry ∈ before.entries, entry.id = later.id ∧ related entry.row later.row

/-- A table that stays as it is evolves. -/
theorem Evolves.refl (hrefl : ∀ row, related row row) (table : Table Row) :
    table.Evolves kind related table where
  next := Int.le_refl _
  carried entry hmem _ := ⟨entry, hmem, rfl, hrefl entry.row⟩
  origin later hmem _ := ⟨later, hmem, rfl, hrefl later.row⟩

/-- Evolution goes on for the rows that are of the kind first and become rows of the kind that is
carried further. -/
theorem Evolves.trans (hfirst : before.Evolves kind related middle)
    (hsecond : middle.Evolves kind' related' after) {both : Row → Prop}
    (hkind : ∀ row, both row → kind row ∧ ∀ later, related row later → kind' later)
    (hcompose : ∀ row later last, related row later → related' later last → composed row last) :
    before.Evolves both composed after where
  next := Int.le_trans hfirst.next hsecond.next
  carried entry hmem hof := by
    obtain ⟨hof, hlaterOf⟩ := hkind entry.row hof
    obtain ⟨later, hlater, hid, hrelated⟩ := hfirst.carried entry hmem hof
    obtain ⟨last, hlast, hlastId, hrelated'⟩ := hsecond.carried later hlater (hlaterOf _ hrelated)
    exact ⟨last, hlast, hlastId.trans hid, hcompose _ _ _ hrelated hrelated'⟩
  origin last hlast hlt := by
    obtain ⟨later, hlater, hid, hrelated'⟩ :=
      hsecond.origin last hlast (Int.lt_of_lt_of_le hlt hfirst.next)
    obtain ⟨entry, hmem, hentry, hrelated⟩ := hfirst.origin later hlater (hid ▸ hlt)
    exact ⟨entry, hmem, hentry.trans hid, hcompose _ _ _ hrelated hrelated'⟩

/-- Evolution of all rows goes on. -/
theorem Evolves.trans_all (hfirst : before.Evolves (fun _ => True) related middle)
    (hsecond : middle.Evolves (fun _ => True) related after)
    (htrans : ∀ row later last, related row later → related later last → related row last) :
    before.Evolves (fun _ => True) related after :=
  hfirst.trans hsecond (fun _ _ => ⟨trivial, fun _ _ => trivial⟩) htrans

/-- What evolves does so for fewer rows and with more allowed. -/
theorem Evolves.mono (hevolves : before.Evolves kind related after)
    (hkind : ∀ row, kind' row → kind row) (hrelated : ∀ row later, related row later →
      related' row later) : before.Evolves kind' related' after where
  next := hevolves.next
  carried entry hmem hof := by
    obtain ⟨later, hlater, hid, h⟩ := hevolves.carried entry hmem (hkind _ hof)
    exact ⟨later, hlater, hid, hrelated _ _ h⟩
  origin later hmem hlt := by
    obtain ⟨entry, hentry, hid, h⟩ := hevolves.origin later hmem hlt
    exact ⟨entry, hentry, hid, hrelated _ _ h⟩

/-- A new row has a new id. -/
theorem evolves_insert (hrefl : ∀ row, related row row) (table : Table Row) (row : Row) :
    table.Evolves kind related (table.insert row) where
  next := Int.le_add_one (Int.le_refl _)
  carried entry hmem _ := ⟨entry, mem_insert.mpr (.inl hmem), rfl, hrefl entry.row⟩
  origin later hmem hlt := by
    rcases mem_insert.mp hmem with hold | rfl
    · exact ⟨later, hold, rfl, hrefl later.row⟩
    · exact absurd hlt (Int.lt_irrefl _)

/-- Rows are changed in the way allowed. -/
theorem evolves_modify (condition : Entry Row → Bool) (change : Row → Row)
    (hrelated : ∀ entry ∈ table.entries,
      related entry.row (if condition entry then change entry.row else entry.row)) :
    table.Evolves kind related (table.modify condition change) where
  next := Int.le_refl _
  carried entry hmem _ := by
    refine ⟨_, mem_modify.mpr ⟨entry, hmem, rfl⟩, ?_⟩
    have hentry := hrelated entry hmem
    split at hentry
    · next hchanged =>
        rw [if_pos hchanged]
        exact ⟨rfl, hentry⟩
    · next hkept =>
        rw [if_neg hkept]
        exact ⟨rfl, hentry⟩
  origin later hmem _ := by
    obtain ⟨entry, hentry, rfl⟩ := mem_modify.mp hmem
    have hallowed := hrelated entry hentry
    refine ⟨entry, hentry, ?_⟩
    split at hallowed
    · next hchanged =>
        rw [if_pos hchanged]
        exact ⟨rfl, hallowed⟩
    · next hkept =>
        rw [if_neg hkept]
        exact ⟨rfl, hallowed⟩

/-- Rows of other kinds are removed. -/
theorem evolves_remove (hrefl : ∀ row, related row row) {condition : Entry Row → Bool}
    (hkept : ∀ entry ∈ table.entries, kind entry.row → condition entry = false) :
    table.Evolves kind related (table.remove condition) where
  next := Int.le_refl _
  carried entry hmem hof :=
    ⟨entry, mem_remove.mpr ⟨hmem, hkept entry hmem hof⟩, rfl, hrefl entry.row⟩
  origin later hmem _ := ⟨later, (mem_remove.mp hmem).1, rfl, hrefl later.row⟩

end Table

/-- A podcast goes on with its user and its address. -/
structure Podcast.Continues (podcast later : Podcast) : Prop where
  user : later.userId = podcast.userId
  url : later.url = podcast.url

/-- An episode goes on with its podcast and its address, and with its identifier if it has one. -/
structure Episode.Continues (episode later : Episode) : Prop where
  podcast : later.podcastId = episode.podcastId
  url : later.url = episode.url
  guid : ∀ guid ∈ episode.guid, later.guid = some guid

/-- A podcast that stays as it is goes on. -/
theorem Podcast.Continues.refl (podcast : Podcast) : podcast.Continues podcast :=
  ⟨rfl, rfl⟩

/-- A podcast that goes on twice goes on. -/
theorem Podcast.Continues.trans {podcast later last : Podcast} (hfirst : podcast.Continues later)
    (hsecond : later.Continues last) : podcast.Continues last :=
  ⟨hsecond.user.trans hfirst.user, hsecond.url.trans hfirst.url⟩

/-- An episode that stays as it is goes on. -/
theorem Episode.Continues.refl (episode : Episode) : episode.Continues episode :=
  ⟨rfl, rfl, fun _ hguid => hguid⟩

/-- An episode that goes on twice goes on. -/
theorem Episode.Continues.trans {episode later last : Episode} (hfirst : episode.Continues later)
    (hsecond : later.Continues last) : episode.Continues last :=
  ⟨hsecond.podcast.trans hfirst.podcast, hsecond.url.trans hfirst.url,
    fun guid hguid => hsecond.guid guid (hfirst.guid guid hguid)⟩

/-- An episode goes on when it is identified. -/
theorem Episode.continues_identify (episode : Episode) (guid : Option String) :
    episode.Continues (episode.identify guid) :=
  ⟨rfl, rfl, fun _ hguid => guid_identify_of_some hguid guid⟩

namespace Store

variable {store next : Store} {userId : Int} {time? : Option Instant}

/-- A write keeps all podcasts. -/
theorem Write.podcasts_evolve (hwrite : store.Write userId time? next) :
    store.podcasts.Evolves (fun _ => True) Podcast.Continues next.podcasts := by
  cases hwrite with
  | insertPodcast => exact Table.evolves_insert .refl _ _
  | turn _ selected subscribed =>
      dsimp only
      refine Table.evolves_modify _ _ fun podcast _ => ?_
      split
      · exact ⟨podcast.row.userId_turn _ _, podcast.row.url_turn _ _⟩
      · exact .refl _
  | endDevice =>
      rw [without_device_eq]
      exact .refl .refl _
  | insertDevice | describeDevice | insertEpisode | identifyEpisode | insertAction | insertSetting
  | changeSetting | removeSetting => exact .refl .refl _

/-- A write keeps all episodes. -/
theorem Write.episodes_evolve (hwrite : store.Write userId time? next) :
    store.episodes.Evolves (fun _ => True) Episode.Continues next.episodes := by
  cases hwrite with
  | insertEpisode => exact Table.evolves_insert .refl _ _
  | identifyEpisode _ _ guid =>
      dsimp only
      refine Table.evolves_modify _ _ fun episode _ => ?_
      split
      · exact episode.row.continues_identify guid
      · exact .refl _
  | endDevice =>
      rw [without_device_eq]
      exact .refl .refl _
  | insertDevice | describeDevice | insertPodcast | turn | insertAction | insertSetting
  | changeSetting | removeSetting => exact .refl .refl _

/-- Writes keep all podcasts and all episodes. -/
theorem Writes.catalog_evolves (hwrites : Writes userId time? store next) :
    store.podcasts.Evolves (fun _ => True) Podcast.Continues next.podcasts ∧
      store.episodes.Evolves (fun _ => True) Episode.Continues next.episodes := by
  induction hwrites with
  | refl => exact ⟨.refl .refl _, .refl .refl _⟩
  | tail _ hwrite ih =>
      exact ⟨ih.1.trans_all hwrite.podcasts_evolve fun _ _ _ => .trans,
        ih.2.trans_all hwrite.episodes_evolve fun _ _ _ => .trans⟩

/-- Every request but the end of an account keeps all podcasts and all episodes. -/
theorem Effect.catalog_evolves {name : String} {request : Request}
    (heffect : store.Effect name request next) (hstays : request ≠ .destroyUser) :
    store.podcasts.Evolves (fun _ => True) Podcast.Continues next.podcasts ∧
      store.episodes.Evolves (fun _ => True) Episode.Continues next.episodes := by
  cases heffect with
  | create => exact ⟨.refl .refl _, .refl .refl _⟩
  | destroy => exact absurd rfl hstays
  | nothing => exact ⟨.refl .refl _, .refl .refl _⟩
  | writes _ hwrites => exact hwrites.catalog_evolves

variable {name : String} {request : Request}

/-- The step of a request that succeeds. -/
theorem step_of_answer {answer : Answer} (hanswer : store.answer name request = .ok (next, answer)) :
    store.step name request = (next, .ok answer) := by
  unfold step
  rw [hanswer]

/-- The step of a request that fails. -/
theorem step_of_error {failure : Failure} (herror : store.answer name request = .error failure) :
    store.step name request = (store, .error failure) := by
  unfold step
  rw [herror]

end Store

end PodcastLedger
