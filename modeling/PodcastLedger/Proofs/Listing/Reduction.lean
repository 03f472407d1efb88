import Mathlib.Logic.Function.Basic
import PodcastLedger.Proofs.Listing.Order

/-!
# Reduction to the latest views

Aggregation notes views in a table under their episodes, where a view replaces an earlier one, and
gives what is in the table, walked over in any order (`ActionView.Aggregates`). Sorted, it is one
list for all walks: `ActionView.reduce`. The list depends on no more than the latest views, so views
may be left out, put in another order or reduced in parts before, as long as what is left represents
all of them (`ActionView.reduces_iff`).
-/

namespace PodcastLedger.ActionView

variable {views others parts kept walked : List ActionView}

/-! ## The table of latest views -/

/-- A table of views under the ids of their episodes, by its look-ups. -/
abbrev LatestTable := Int → Option ActionView

/-- Puts a view into the table under its episode, if there is none or an earlier one. -/
def note (table : LatestTable) (view : ActionView) : LatestTable :=
  if ∀ current ∈ table view.episodeId, current.Before view then
    Function.update table view.episodeId (some view)
  else table

/-- The entries of a table in one of the orders in which they may be walked over. -/
structure Walk (table : LatestTable) (entries : List (Int × ActionView)) : Prop where
  mem_iff : ∀ episodeId view, (episodeId, view) ∈ entries ↔ table episodeId = some view
  keys : (entries.map Prod.fst).Nodup

/-- Views that aggregation may give: those that the table holds after all were noted, in some order
to walk over it. -/
def Aggregates (views kept : List ActionView) : Prop :=
  ∃ entries, Walk (views.foldl note fun _ => none) entries ∧ kept = entries.map Prod.snd

/-- The table in which each view is under its episode. -/
def tableOf (kept : List ActionView) : LatestTable :=
  fun episodeId => kept.find? fun view => view.episodeId == episodeId

/-- A view is looked up first among the first ones. -/
theorem table_of_cons (current : ActionView) (rest : List ActionView) (episodeId : Int) :
    tableOf (current :: rest) episodeId =
      if current.episodeId = episodeId then some current else tableOf rest episodeId := by
  unfold tableOf
  rw [List.find?_cons]
  by_cases hepisode : current.episodeId = episodeId
  · rw [if_pos hepisode, beq_iff_eq.mpr hepisode]
  · rw [if_neg hepisode, beq_eq_false_iff_ne.mpr hepisode]

/-- After a view was noted the later one is under its episode, and the others are as before. -/
theorem note_apply (table : LatestTable) (view : ActionView) (episodeId : Int) :
    note table view episodeId =
      if view.episodeId = episodeId then
        some ((table episodeId).elim view fun current =>
          if current.Before view then view else current)
      else table episodeId := by
  unfold note
  by_cases hepisode : view.episodeId = episodeId
  · subst hepisode
    cases hcurrent : table view.episodeId with
    | none => simp
    | some current => by_cases hbefore : current.Before view <;> simp [hbefore, hcurrent]
  · have hother : episodeId ≠ view.episodeId := fun heq => hepisode heq.symm
    rw [if_neg hepisode]
    split
    · exact Function.update_of_ne hother _ _
    · rfl

/-- To put a view among the latest ones is to note it in their table. -/
theorem table_of_insert_latest (kept : List ActionView) (view : ActionView) :
    tableOf (insertLatest view kept) = note (tableOf kept) view := by
  funext episodeId
  induction kept with
  | nil =>
      rw [note_apply, insertLatest, table_of_cons]
      rfl
  | cons current rest ih =>
      unfold insertLatest
      rw [note_apply] at ih ⊢
      rw [table_of_cons current rest]
      by_cases hsame : current.episodeId = view.episodeId
      · rw [if_pos hsame, table_of_cons]
        by_cases hbefore : current.Before view <;>
          by_cases hepisode : view.episodeId = episodeId <;> simp [hsame, hbefore, hepisode]
      · rw [if_neg hsame, table_of_cons, ih]
        by_cases hcurrent : current.episodeId = episodeId
        · have hepisode : view.episodeId ≠ episodeId := fun heq => hsame (hcurrent.trans heq.symm)
          simp [hcurrent, hepisode]
        · simp [hcurrent]

/-- After all views were noted the table is the one of the latest views. -/
theorem foldl_note (views : List ActionView) :
    views.foldl note (fun _ => none) = tableOf (latest views) := by
  change views.foldl note (tableOf []) = _
  exact List.foldl_hom tableOf fun kept view => (table_of_insert_latest kept view).symm

/-- The table of views of different episodes holds each of them. -/
theorem table_of_eq_some_iff
    (hepisodes : kept.Pairwise fun first second => first.episodeId ≠ second.episodeId)
    {episodeId : Int} {view : ActionView} :
    tableOf kept episodeId = some view ↔ view ∈ kept ∧ view.episodeId = episodeId := by
  unfold tableOf
  constructor
  · intro hfind
    exact ⟨List.mem_of_find?_eq_some hfind, by simpa using List.find?_some hfind⟩
  · rintro ⟨hmem, rfl⟩
    cases hfind : kept.find? fun other => other.episodeId == view.episodeId with
    | none => exact absurd (List.find?_eq_none.mp hfind view hmem) (by simp)
    | some other =>
        have hepisode : other.episodeId = view.episodeId := by simpa using List.find?_some hfind
        rw [List.inj_on_of_nodup_map (List.pairwise_map.mpr hepisodes)
          (List.mem_of_find?_eq_some hfind) hmem hepisode]

/-- Aggregation gives the latest views, in any order. -/
theorem aggregates_iff_perm : Aggregates views kept ↔ kept.Perm (latest views) := by
  have hepisodes := (latest_of_latest views).episodes
  unfold Aggregates
  rw [foldl_note]
  constructor
  · rintro ⟨entries, hwalk, rfl⟩
    have hkey : ∀ entry ∈ entries, entry.2 ∈ latest views ∧ entry.2.episodeId = entry.1 :=
      fun entry hmem => (table_of_eq_some_iff hepisodes).mp ((hwalk.mem_iff _ _).mp hmem)
    have hkeys : (entries.map Prod.snd).map episodeId = entries.map Prod.fst := by
      rw [List.map_map]
      exact List.map_congr_left fun entry hmem => (hkey entry hmem).2
    have hnodup : (entries.map Prod.snd).Nodup := List.Nodup.of_map _ (hkeys ▸ hwalk.keys)
    refine (List.perm_ext_iff_of_nodup hnodup (hepisodes.imp fun hne heq => ?_)).mpr fun view => ?_
    · exact hne (congrArg episodeId heq)
    · constructor
      · intro hmem
        obtain ⟨entry, hentry, rfl⟩ := List.mem_map.mp hmem
        exact (hkey entry hentry).1
      · intro hmem
        have hfound := (hwalk.mem_iff _ _).mpr ((table_of_eq_some_iff hepisodes).mpr ⟨hmem, rfl⟩)
        exact List.mem_map.mpr ⟨_, hfound, rfl⟩
  · intro hperm
    refine ⟨kept.map fun view => (view.episodeId, view), ⟨fun episodeId view => ?_, ?_⟩, ?_⟩
    · rw [table_of_eq_some_iff hepisodes, ← hperm.mem_iff]
      simp [and_comm]
    · rw [List.map_map]
      exact (hperm.map _).nodup_iff.mpr (List.pairwise_map.mpr hepisodes)
    · rw [List.map_map]
      exact (List.map_id kept).symm

/-! ## The latest views -/

/-- Some of the views stand for all of them: of the episode of each there is one that is not
before it. -/
structure Represents (views parts : List ActionView) : Prop where
  found : ∀ view ∈ parts, view ∈ views
  covers : ∀ view ∈ views,
    ∃ part ∈ parts, part.episodeId = view.episodeId ∧ ¬ part.Before view

/-- The same views in another order stand for all of them. -/
theorem represents_of_perm (hperm : others.Perm views) : Represents views others :=
  ⟨fun _ hmem => hperm.mem_iff.mp hmem, fun view hmem =>
    ⟨view, hperm.mem_iff.mpr hmem, rfl, fun hbefore => not_before_of_before hbefore hbefore⟩⟩

/-- What stands for two lists of views stands, put together, for both. -/
theorem Represents.append {otherParts : List ActionView} (hviews : Represents views parts)
    (hothers : Represents others otherParts) :
    Represents (views ++ others) (parts ++ otherParts) where
  found view hmem := by
    rcases List.mem_append.mp hmem with hfirst | hsecond
    · exact List.mem_append_left _ (hviews.found view hfirst)
    · exact List.mem_append_right _ (hothers.found view hsecond)
  covers view hmem := by
    rcases List.mem_append.mp hmem with hfirst | hsecond
    · obtain ⟨part, hpart, hcovers⟩ := hviews.covers view hfirst
      exact ⟨part, List.mem_append_left _ hpart, hcovers⟩
    · obtain ⟨part, hpart, hcovers⟩ := hothers.covers view hsecond
      exact ⟨part, List.mem_append_right _ hpart, hcovers⟩

/-- The latest views stand for all of them. -/
theorem LatestOf.represents (hlatest : LatestOf views kept) : Represents views kept :=
  ⟨hlatest.found, hlatest.covers⟩

/-- The latest of views that stand for all are the latest of all. -/
theorem LatestOf.of_represents (hlatest : LatestOf parts kept) (hparts : Represents views parts) :
    LatestOf views kept where
  found view hmem := hparts.found view (hlatest.found view hmem)
  covers view hmem := by
    obtain ⟨part, hpart, hepisode, hnot⟩ := hparts.covers view hmem
    obtain ⟨latest, hkept, hsame, hlater⟩ := hlatest.covers part hpart
    exact ⟨latest, hkept, hsame.trans hepisode, not_before_trans hlater hnot⟩
  episodes := hlatest.episodes

/-- The latest views are the latest ones in another order. -/
theorem LatestOf.of_perm (hlatest : LatestOf views kept) (hperm : walked.Perm kept) :
    LatestOf views walked where
  found view hmem := hlatest.found view (hperm.mem_iff.mp hmem)
  covers view hmem := by
    obtain ⟨latest, hkept, hlater⟩ := hlatest.covers view hmem
    exact ⟨latest, hperm.mem_iff.mpr hkept, hlater⟩
  episodes := hperm.symm.pairwise hlatest.episodes Ne.symm

/-- What is the latest of its episode in one list of latest views is so in any other. -/
theorem LatestOf.subset (hlatest : LatestOf views kept) (hothers : LatestOf views others)
    (hidentified : Identified views) : kept ⊆ others := by
  intro view hmem
  obtain ⟨other, hother, hepisode, hnot⟩ := hothers.covers view (hlatest.found view hmem)
  rcases hlatest.greatest hidentified hmem (hothers.found other hother) hepisode with rfl | hbefore
  · exact hother
  · exact absurd hbefore hnot

/-- The latest views are the same up to their order. -/
theorem LatestOf.perm (hlatest : LatestOf views kept) (hothers : LatestOf views others)
    (hidentified : Identified views) : kept.Perm others := by
  have hnodup : ∀ {latest : List ActionView}, LatestOf views latest → latest.Nodup :=
    fun hlatest => List.Nodup.of_map _ (hlatest.distinct hidentified)
  refine (List.perm_ext_iff_of_nodup (hnodup hlatest) (hnodup hothers)).mpr fun view => ?_
  exact ⟨fun hmem => hlatest.subset hothers hidentified hmem,
    fun hmem => hothers.subset hlatest hidentified hmem⟩

/-- What aggregation gives are the latest views. -/
theorem Aggregates.latest_of (haggregates : Aggregates views kept) : LatestOf views kept :=
  (latest_of_latest views).of_perm (aggregates_iff_perm.mp haggregates)

/-! ## Reduction -/

/-- The latest views in order, as an aggregated listing cuts them and the favorites show them. -/
def reduce (order : SortOrder) (views : List ActionView) : List ActionView :=
  sort order (latest views)

/-- What may be left of views: what aggregation gives, in order. -/
def Reduces (order : SortOrder) (views reduced : List ActionView) : Prop :=
  ∃ kept, Aggregates views kept ∧ reduced = sort order kept

variable {order : SortOrder} {reduced : List ActionView}

/-- What is left are the latest views. -/
theorem Reduces.latest_of (hreduces : Reduces order views reduced) : LatestOf views reduced := by
  obtain ⟨kept, haggregates, rfl⟩ := hreduces
  exact haggregates.latest_of.of_perm (sort_perm order kept)

/-- Of views that stand for all of them there is left what is left of all, whatever the order in
which they come and in which the table is walked over. -/
theorem reduces_iff (hidentified : Identified views) (hparts : Represents views parts) :
    Reduces order parts reduced ↔ reduced = reduce order views := by
  have hsort : ∀ {kept : List ActionView}, Aggregates parts kept →
      sort order kept = reduce order views := fun haggregates =>
    sort_eq_of_perm order ((latest_of_latest views).distinct hidentified)
      ((haggregates.latest_of.of_represents hparts).perm (latest_of_latest views) hidentified)
  constructor
  · rintro ⟨kept, haggregates, rfl⟩
    exact hsort haggregates
  · rintro rfl
    have haggregates := aggregates_iff_perm.mpr (List.Perm.refl (latest parts))
    exact ⟨latest parts, haggregates, (hsort haggregates).symm⟩

/-- Reduction is canonical for views that are identified, as any without a repeated id are. In
whatever order the table is walked over, aggregation gives one view of each episode that occurs,
which is after all other views of the episode. In order there is one list that may be left of the
views, whatever the order in which they come. Each order is strict, and one is the reverse of the
other. Nothing else is left if what is left is reduced again, or if the views are reduced in two
parts before. -/
theorem reduction_canonical (hidentified : Identified views) :
    (∀ kept, Aggregates views kept →
      (kept.map episodeId).Nodup ∧
      (∀ episode, episode ∈ kept.map episodeId ↔ episode ∈ views.map episodeId) ∧
      ∀ view ∈ kept, view ∈ views ∧ ∀ other ∈ views, other.episodeId = view.episodeId →
        other = view ∨ other.Before view) ∧
    (∀ order, InOrder order (reduce order views) ∧
      (∀ others, others.Perm views → ∀ reduced,
        Reduces order others reduced ↔ reduced = reduce order views) ∧
      (∀ before again, Reduces before views again → ∀ reduced,
        Reduces order again reduced ↔ reduced = reduce order views) ∧
      ∀ earlier later, earlier ++ later = views → ∀ before between first second,
        Reduces before earlier first → Reduces between later second → ∀ reduced,
          Reduces order (first ++ second) reduced ↔ reduced = reduce order views) ∧
    reduce .descending views = (reduce .ascending views).reverse := by
  refine ⟨fun kept haggregates => ?_, fun order => ⟨?_, fun others hperm reduced => ?_,
    fun before again hagain reduced => ?_, ?_⟩, rfl⟩
  · have hlatest := haggregates.latest_of
    refine ⟨List.pairwise_map.mpr hlatest.episodes,
      fun episode => ⟨fun hkept => ?_, fun hmem => ?_⟩,
      fun view hview => ⟨hlatest.found view hview, fun other hother hepisode =>
        hlatest.greatest hidentified hview hother hepisode⟩⟩
    · obtain ⟨view, hview, rfl⟩ := List.mem_map.mp hkept
      exact List.mem_map_of_mem (hlatest.found view hview)
    · obtain ⟨view, hview, rfl⟩ := List.mem_map.mp hmem
      obtain ⟨latest, hkept, hepisode, _⟩ := hlatest.covers view hview
      exact hepisode ▸ List.mem_map_of_mem hkept
  · exact in_order_sort order ((latest_of_latest views).distinct hidentified)
  · exact reduces_iff hidentified (represents_of_perm hperm)
  · exact reduces_iff hidentified hagain.latest_of.represents
  · rintro earlier later rfl before between first second hfirst hsecond reduced
    exact reduces_iff hidentified
      (hfirst.latest_of.represents.append hsecond.latest_of.represents)

/-- Views of two episodes. Of one episode two views have the same time, and the one that was
recorded later comes first. -/
def tiedViews : List ActionView :=
  let view := fun id episode seconds => ActionView.mk id episode "new" none "http://a.example/1"
    none "http://a.example/feed" none none (.ofUnix seconds) none
  [view 10 1 1, view 12 1 2, view 11 1 2, view 13 2 1]

/-- Of views of one time the one that was recorded later is left. This is so if the views come in
the opposite order, and if the first two are reduced without the others. -/
theorem reduction_of_tied_views :
    (reduce .ascending tiedViews).map ActionView.id = [13, 12] ∧
      (∀ reduced, Reduces .ascending tiedViews.reverse reduced ↔
        reduced = reduce .ascending tiedViews) ∧
      ∀ first second, Reduces .descending (tiedViews.take 2) first →
        Reduces .descending (tiedViews.drop 2) second → ∀ reduced,
          Reduces .descending (first ++ second) reduced ↔
            reduced = (reduce .ascending tiedViews).reverse := by
  have hdistinct : Distinct tiedViews := by
    unfold Distinct
    decide
  obtain ⟨_, hreduced, hreverse⟩ := reduction_canonical hdistinct.identified
  obtain ⟨horder, hperm, _, _⟩ := hreduced .ascending
  obtain ⟨_, _, _, hparts⟩ := hreduced .descending
  refine ⟨?_, hperm _ (List.reverse_perm _), ?_⟩
  · have hascending : InOrder .ascending (latest tiedViews).reverse := by
      unfold InOrder
      decide
    rw [eq_of_in_order .ascending horder hascending
      ((sort_perm _ _).trans (List.reverse_perm _).symm)]
    decide
  · rw [← hreverse]
    exact hparts _ _ (List.take_append_drop 2 tiedViews) .descending .descending

end PodcastLedger.ActionView
