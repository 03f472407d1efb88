import PodcastLedger.Episode.View
import Mathlib.Data.List.Sort

/-!
# Order and aggregation of views

Views with different ids are in one order by time and id, so what is found in any order has one
sorted list (`ActionView.eq_of_in_order`). The latest views of the episodes are those without a later
one, in whatever order the views are looked at: `ActionView.mem_latest_iff`.
-/

namespace PodcastLedger.ActionView

variable {first second third : ActionView} {views others : List ActionView}

/-- Views are ordered by the place of their time and their id. -/
theorem before_iff :
    first.Before second ↔ first.timestamp.key < second.timestamp.key ∨
      first.timestamp.key = second.timestamp.key ∧ first.id < second.id := by
  rw [Before, Instant.lt_def, Instant.key_inj]

/-- Of two views not both are before the other. -/
theorem not_before_of_before (hbefore : first.Before second) : ¬ second.Before first := by
  rw [before_iff] at hbefore ⊢
  omega

/-- A view that is not before a second one, which is not before a third one, is not before it. -/
theorem not_before_trans (hfirst : ¬ first.Before second) (hsecond : ¬ second.Before third) :
    ¬ first.Before third := by
  rw [before_iff] at hfirst hsecond ⊢
  omega

/-- Of two views with different ids one is before the other. -/
theorem before_of_not_before (hid : first.id ≠ second.id) (hnot : ¬ second.Before first) :
    first.Before second := by
  rw [before_iff] at hnot ⊢
  omega

/-! ## Sorting -/

/-- The views are in the order that is asked for. -/
def InOrder (order : SortOrder) (views : List ActionView) : Prop :=
  match order with
  | .ascending => views.Pairwise Before
  | .descending => views.Pairwise fun first second => second.Before first

/-- No two views have one id. -/
def Distinct (views : List ActionView) : Prop :=
  (views.map ActionView.id).Nodup

/-- No two different views have one id. -/
def Identified (views : List ActionView) : Prop :=
  ∀ first ∈ views, ∀ second ∈ views, first.id = second.id → first = second

/-- Views without a repeated id are identified. -/
theorem Distinct.identified (hdistinct : Distinct views) : Identified views :=
  fun _ hfirst _ hsecond hid => List.inj_on_of_nodup_map hdistinct hfirst hsecond hid

/-- The same views in another order are as distinct. -/
theorem Distinct.perm (hdistinct : Distinct views) (hperm : others.Perm views) : Distinct others :=
  (hperm.map _).nodup_iff.mpr hdistinct

/-- Some of the views are as distinct. -/
theorem Distinct.sublist (hdistinct : Distinct views) (hsublist : others.Sublist views) :
    Distinct others :=
  List.Nodup.sublist (hsublist.map _) hdistinct

/-- Sorting keeps the views. -/
theorem sort_perm (order : SortOrder) (views : List ActionView) : (sort order views).Perm views := by
  cases order with
  | ascending => exact List.mergeSort_perm _ _
  | descending => exact (List.reverse_perm _).trans (List.mergeSort_perm _ _)

/-- Sorting puts views in order. -/
theorem in_order_sort (order : SortOrder) (hdistinct : Distinct views) :
    InOrder order (sort order views) := by
  have hsorted : (sort .ascending views).Pairwise fun first second =>
      (!decide (second.Before first)) = true := by
    refine List.pairwise_mergeSort (fun a b c hab hbc => ?_) (fun a b => ?_) _
    · simp only [Bool.not_eq_true', decide_eq_false_iff_not] at hab hbc ⊢
      exact not_before_trans hbc hab
    · by_cases hbefore : a.Before b
      · simp [not_before_of_before hbefore]
      · simp [hbefore]
  have hids : (sort .ascending views).Pairwise fun first second => first.id ≠ second.id :=
    List.pairwise_map.mp (hdistinct.perm (sort_perm .ascending views))
  have hascending : (sort .ascending views).Pairwise Before := by
    refine (hsorted.and hids).imp fun {first second} h => before_of_not_before h.2 ?_
    simpa using h.1
  cases order with
  | ascending => exact hascending
  | descending => exact List.pairwise_reverse.mpr hascending

/-- The same views in the same order are the same list. -/
theorem eq_of_in_order (order : SortOrder) (hfirst : InOrder order views)
    (hsecond : InOrder order others) (hperm : views.Perm others) : views = others := by
  cases order with
  | ascending =>
      refine hperm.eq_of_pairwise (fun a b _ _ hab hba => ?_) hfirst hsecond
      exact absurd hba (not_before_of_before hab)
  | descending =>
      refine hperm.eq_of_pairwise (fun a b _ _ hab hba => ?_) hfirst hsecond
      exact absurd hab (not_before_of_before hba)

/-- The same views are sorted the same, in whatever order they come. -/
theorem sort_eq_of_perm (order : SortOrder) (hdistinct : Distinct views)
    (hperm : others.Perm views) : sort order others = sort order views := by
  refine eq_of_in_order order (in_order_sort order (hdistinct.perm hperm))
    (in_order_sort order hdistinct) ?_
  exact (sort_perm order others).trans (hperm.trans (sort_perm order views).symm)

/-! ## Aggregation -/

/-- What is among the latest views is the one that was put there or was there before. -/
theorem of_mem_insert_latest {view other : ActionView} {kept : List ActionView}
    (hmem : other ∈ insertLatest view kept) : other = view ∨ other ∈ kept := by
  induction kept with
  | nil => exact .inl (List.mem_singleton.mp hmem)
  | cons current rest ih =>
      unfold insertLatest at hmem
      split at hmem
      · rcases List.mem_cons.mp hmem with rfl | hrest
        · split
          · exact .inl rfl
          · exact .inr List.mem_cons_self
        · exact .inr (List.mem_cons_of_mem _ hrest)
      · rcases List.mem_cons.mp hmem with rfl | hrest
        · exact .inr List.mem_cons_self
        · exact (ih hrest).imp_right (List.mem_cons_of_mem _)

/-- One of the latest views is of the episode of the view that was put there, and not before it. -/
theorem insert_latest_covers (view : ActionView) (kept : List ActionView) :
    ∃ latest ∈ insertLatest view kept, latest.episodeId = view.episodeId ∧ ¬ latest.Before view := by
  have hself : ¬ view.Before view := fun h => not_before_of_before h h
  induction kept with
  | nil => exact ⟨view, List.mem_singleton.mpr rfl, rfl, hself⟩
  | cons current rest ih =>
      unfold insertLatest
      split
      · next hepisode =>
          refine ⟨_, List.mem_cons_self, ?_⟩
          split
          · exact ⟨rfl, hself⟩
          · next hnot => exact ⟨hepisode, hnot⟩
      · obtain ⟨latest, hmem, hlatest⟩ := ih
        exact ⟨latest, List.mem_cons_of_mem _ hmem, hlatest⟩

/-- For each of the latest views one of its episode and not before it is there afterwards. -/
theorem insert_latest_grows (view : ActionView) {kept : List ActionView} {old : ActionView}
    (hold : old ∈ kept) :
    ∃ latest ∈ insertLatest view kept, latest.episodeId = old.episodeId ∧ ¬ latest.Before old := by
  have hself : ¬ old.Before old := fun h => not_before_of_before h h
  induction kept with
  | nil => cases hold
  | cons current rest ih =>
      unfold insertLatest
      split
      · next hepisode =>
          rcases List.mem_cons.mp hold with rfl | hrest
          · refine ⟨_, List.mem_cons_self, ?_⟩
            split
            · next hbefore => exact ⟨hepisode.symm, not_before_of_before hbefore⟩
            · exact ⟨rfl, hself⟩
          · exact ⟨old, List.mem_cons_of_mem _ hrest, rfl, hself⟩
      · rcases List.mem_cons.mp hold with rfl | hrest
        · exact ⟨old, List.mem_cons_self, rfl, hself⟩
        · obtain ⟨latest, hmem, hlatest⟩ := ih hrest
          exact ⟨latest, List.mem_cons_of_mem _ hmem, hlatest⟩

/-- The latest views are of different episodes. -/
theorem insert_latest_episodes (view : ActionView) {kept : List ActionView}
    (hkept : kept.Pairwise fun first second => first.episodeId ≠ second.episodeId) :
    (insertLatest view kept).Pairwise fun first second => first.episodeId ≠ second.episodeId := by
  induction kept with
  | nil => exact List.pairwise_singleton _ _
  | cons current rest ih =>
      obtain ⟨hother, hrest⟩ := List.pairwise_cons.mp hkept
      unfold insertLatest
      split
      · next hepisode =>
          refine List.pairwise_cons.mpr ⟨fun other hmem => ?_, hrest⟩
          split
          · rw [← hepisode]
            exact hother other hmem
          · exact hother other hmem
      · next hepisode =>
          refine List.pairwise_cons.mpr ⟨fun other hmem => ?_, ih hrest⟩
          rcases of_mem_insert_latest hmem with rfl | hold
          · exact hepisode
          · exact hother other hold

/-- The views that are kept are the latest ones of the episodes of those seen. -/
structure LatestOf (seen kept : List ActionView) : Prop where
  found : ∀ view ∈ kept, view ∈ seen
  covers : ∀ view ∈ seen,
    ∃ latest ∈ kept, latest.episodeId = view.episodeId ∧ ¬ latest.Before view
  episodes : kept.Pairwise fun first second => first.episodeId ≠ second.episodeId

/-- After one more view the latest ones are kept. -/
theorem LatestOf.insert {seen kept : List ActionView} (hlatest : LatestOf seen kept)
    (view : ActionView) : LatestOf (view :: seen) (insertLatest view kept) where
  found other hmem := by
    rcases of_mem_insert_latest hmem with rfl | hold
    · exact List.mem_cons_self
    · exact List.mem_cons_of_mem _ (hlatest.found other hold)
  covers other hmem := by
    rcases List.mem_cons.mp hmem with rfl | hold
    · exact insert_latest_covers other kept
    · obtain ⟨old, hkept, hepisode, hnot⟩ := hlatest.covers other hold
      obtain ⟨latest, hlatest, hsame, hlater⟩ := insert_latest_grows view hkept
      exact ⟨latest, hlatest, hsame.trans hepisode, not_before_trans hlater hnot⟩
  episodes := insert_latest_episodes view hlatest.episodes

/-- Aggregation keeps the latest views. -/
theorem latest_of_latest (views : List ActionView) : LatestOf views (latest views) := by
  have hfold : ∀ (views seen kept : List ActionView), LatestOf seen kept →
      LatestOf (views.reverse ++ seen)
        (views.foldl (fun kept view => insertLatest view kept) kept) := by
    intro views
    induction views with
    | nil => exact fun _ _ hlatest => hlatest
    | cons view views ih =>
        intro seen kept hlatest
        rw [List.reverse_cons, List.append_assoc, List.singleton_append]
        exact ih (view :: seen) _ (hlatest.insert view)
  have hlatest := hfold views [] []
    ⟨List.forall_mem_nil _, List.forall_mem_nil _, List.Pairwise.nil⟩
  rw [List.append_nil] at hlatest
  exact ⟨fun view hmem => List.mem_reverse.mp (hlatest.found view hmem),
    fun view hmem => hlatest.covers view (List.mem_reverse.mpr hmem), hlatest.episodes⟩

/-- Of views that are identified the one of an episode is after all others. -/
theorem LatestOf.greatest {kept : List ActionView} (hlatest : LatestOf views kept)
    (hidentified : Identified views) {view other : ActionView} (hview : view ∈ kept)
    (hother : other ∈ views) (hepisode : other.episodeId = view.episodeId) :
    other = view ∨ other.Before view := by
  obtain ⟨latest, hmem, hsame, hnot⟩ := hlatest.covers other hother
  -- The view that covers the other one is the only one of the episode.
  obtain rfl := List.inj_on_of_nodup_map (List.pairwise_map.mpr hlatest.episodes) hmem hview
    (hsame.trans hepisode)
  by_cases hid : other.id = latest.id
  · exact .inl (hidentified other hother latest (hlatest.found latest hmem) hid)
  · exact .inr (before_of_not_before hid hnot)

/-- The latest views of identified ones do not repeat an id. -/
theorem LatestOf.distinct {kept : List ActionView} (hlatest : LatestOf views kept)
    (hidentified : Identified views) : Distinct kept := by
  refine List.pairwise_map.mpr (hlatest.episodes.imp_of_mem fun {first second} hfirst hsecond => ?_)
  intro hepisode hid
  exact hepisode (congrArg episodeId (hidentified first (hlatest.found first hfirst) second
    (hlatest.found second hsecond) hid))

/-- A view is kept exactly if no view of its episode is later. -/
theorem mem_latest_iff (hdistinct : Distinct views) {view : ActionView} :
    view ∈ latest views ↔ view ∈ views ∧
      ∀ other ∈ views, other.episodeId = view.episodeId → ¬ view.Before other := by
  have hlatest := latest_of_latest views
  constructor
  · intro hmem
    refine ⟨hlatest.found view hmem, fun other hother hepisode hbefore => ?_⟩
    rcases hlatest.greatest hdistinct.identified hmem hother hepisode with rfl | hearlier
    · exact not_before_of_before hbefore hbefore
    · exact not_before_of_before hbefore hearlier
  · rintro ⟨hmem, hlast⟩
    obtain ⟨last, hkept, hsame, _⟩ := hlatest.covers view hmem
    rcases hlatest.greatest hdistinct.identified hkept hmem hsame.symm with rfl | hbefore
    · exact hkept
    · exact absurd hbefore (hlast last (hlatest.found last hkept) hsame)

/-- The views without a later one of their episode, in the order in which they are given. -/
def lastOfEpisodes (views : List ActionView) : List ActionView :=
  views.filter fun view =>
    views.all fun other => !(other.episodeId == view.episodeId && decide (view.Before other))

/-- Aggregation keeps the views without a later one, in whatever order the views are given. -/
theorem latest_perm (hdistinct : Distinct views) (hperm : others.Perm views) :
    (latest others).Perm (lastOfEpisodes views) := by
  have hnodup : (latest others).Nodup := (latest_of_latest others).episodes.imp
    fun {first second} hne heq => hne (congrArg ActionView.episodeId heq)
  have hviews : views.Nodup := List.Nodup.of_map _ hdistinct
  refine (List.perm_ext_iff_of_nodup hnodup (hviews.filter _)).mpr fun view => ?_
  rw [mem_latest_iff (hdistinct.perm hperm), List.mem_filter]
  simp only [hperm.mem_iff, List.all_eq_true, Bool.not_eq_true', Bool.and_eq_false_iff,
    beq_eq_false_iff_ne, decide_eq_false_iff_not, imp_iff_not_or, ne_eq]

end PodcastLedger.ActionView
