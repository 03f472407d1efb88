import PodcastLedger.Proofs.Canonical.Escapes
import PodcastLedger.Proofs.Canonical.Texts
import PodcastLedger.Web.Path

/-!
# Written paths

A path that is written and read again is the same: `Path.parse_to_text`. What reading leaves of a
segment is encoded, has no slash of either direction and stands for no level (`Path.Settled`), so a
second reading has nothing to do.
-/

namespace PodcastLedger.Web.Path

variable {segment text : List Char} {segments above : List (List Char)}

/-- Nothing in the segment is to be encoded, separated or resolved. -/
structure Settled (segment : List Char) : Prop where
  encoded : ∀ c ∈ segment, Percent.isEscapedInPath c = false
  whole : ∀ c ∈ segment, (c == '/' || c == '\\') = false
  not_parent : isParent segment = false
  not_same : isSame segment = false

/-- The empty segment is settled. -/
theorem settled_nil : Settled [] :=
  ⟨List.forall_mem_nil _, List.forall_mem_nil _, by decide, by decide⟩

/-! ## Levels -/

/-- Resolving leaves levels above, segments that stand for no level, and empty segments. -/
theorem mem_resolve (hmem : segment ∈ resolve above segments) :
    segment ∈ above ∨ segment = [] ∨
      segment ∈ segments ∧ isParent segment = false ∧ isSame segment = false := by
  fun_induction resolve above segments with
  | case1 above => exact .inl (List.mem_reverse.mp hmem)
  | case2 above last hparent =>
      rcases List.mem_append.mp hmem with habove | hlast
      · exact .inl (List.mem_of_mem_drop (List.mem_reverse.mp habove))
      · exact .inr (.inl (List.mem_singleton.mp hlast))
  | case3 above last hparent hsame =>
      rcases List.mem_append.mp hmem with habove | hlast
      · exact .inl (List.mem_reverse.mp habove)
      · exact .inr (.inl (List.mem_singleton.mp hlast))
  | case4 above last hparent hsame =>
      rcases List.mem_append.mp hmem with habove | hlast
      · exact .inl (List.mem_reverse.mp habove)
      · obtain rfl := List.mem_singleton.mp hlast
        exact .inr (.inr ⟨List.mem_singleton_self _, by simpa using hparent, by simpa using hsame⟩)
  | case5 above first next rest hparent ih =>
      rcases ih hmem with habove | hempty | ⟨hrest, hlevels⟩
      · exact .inl (List.mem_of_mem_drop habove)
      · exact .inr (.inl hempty)
      · exact .inr (.inr ⟨List.mem_cons_of_mem _ hrest, hlevels⟩)
  | case6 above first next rest hparent hsame ih =>
      rcases ih hmem with habove | hempty | ⟨hrest, hlevels⟩
      · exact .inl habove
      · exact .inr (.inl hempty)
      · exact .inr (.inr ⟨List.mem_cons_of_mem _ hrest, hlevels⟩)
  | case7 above first next rest hparent hsame ih =>
      rcases ih hmem with habove | hempty | ⟨hrest, hlevels⟩
      · rcases List.mem_cons.mp habove with rfl | habove
        · exact .inr (.inr ⟨List.mem_cons_self, by simpa using hparent, by simpa using hsame⟩)
        · exact .inl habove
      · exact .inr (.inl hempty)
      · exact .inr (.inr ⟨List.mem_cons_of_mem _ hrest, hlevels⟩)

/-- Segments that stand for no level are left where they are. -/
theorem resolve_of_settled (hsettled : ∀ segment ∈ segments, Settled segment) :
    resolve above segments = above.reverse ++ segments := by
  fun_induction resolve above segments with
  | case1 above => exact (List.append_nil _).symm
  | case2 above last hparent =>
      rw [(hsettled last List.mem_cons_self).not_parent] at hparent
      cases hparent
  | case3 above last hparent hsame =>
      rw [(hsettled last List.mem_cons_self).not_same] at hsame
      cases hsame
  | case4 above last hparent hsame => rfl
  | case5 above first next rest hparent ih =>
      rw [(hsettled first List.mem_cons_self).not_parent] at hparent
      cases hparent
  | case6 above first next rest hparent hsame ih =>
      rw [(hsettled first List.mem_cons_self).not_same] at hsame
      cases hsame
  | case7 above first next rest hparent hsame ih =>
      rw [ih fun segment hmem => hsettled segment (List.mem_cons_of_mem _ hmem),
        List.reverse_cons, List.append_assoc, List.singleton_append]

/-! ## Reading -/

/-- Encoding brings no slash of either direction into a text. -/
theorem whole_encode (hwhole : ∀ c ∈ segment, (c == '/' || c == '\\') = false) :
    ∀ c ∈ Percent.encode Percent.isEscapedInPath segment, (c == '/' || c == '\\') = false := by
  intro c hmem
  obtain ⟨d, hd, hwritten⟩ := List.mem_flatMap.mp hmem
  split at hwritten
  · obtain ⟨byte, _, hbyte⟩ := List.mem_flatMap.mp hwritten
    have hspared := Percent.spares_user_info byte c hbyte
    refine Bool.eq_false_iff.mpr fun hslash => ?_
    rcases Bool.or_eq_true_iff.mp hslash with hc | hc
    all_goals
      obtain rfl := beq_iff_eq.mp hc
      revert hspared
      decide
  · obtain rfl := List.mem_singleton.mp hwritten
    exact hwhole c hd

/-- The segments that are read from a text are settled. -/
theorem settled_of_mem_parse (hmem : segment ∈ parse text) : Settled segment := by
  rcases mem_resolve hmem with habove | rfl | ⟨hsegment, hparent, hsame⟩
  · cases habove
  · exact settled_nil
  · obtain ⟨part, hpart, rfl⟩ := List.mem_map.mp hsegment
    exact
      { encoded := fun c hc => Percent.escaped_of_mem_encode Percent.spares_path hc
        whole := whole_encode (not_of_mem_split_on hpart)
        not_parent := hparent
        not_same := hsame }

/-- The written form of a path splits into its segments. -/
theorem split_to_text (hsegments : segments ≠ [])
    (hsettled : ∀ segment ∈ segments, Settled segment) :
    ((toText segments).drop 1).splitOnP (fun c => c == '/' || c == '\\') = segments := by
  induction segments with
  | nil => exact absurd rfl hsegments
  | cons first rest ih =>
      obtain ⟨hfirst, hrest⟩ := List.forall_mem_cons.mp hsettled
      cases rest with
      | nil =>
          have htext : (toText [first]).drop 1 = first := by simp [toText]
          rw [htext, List.splitOnP_eq_singleton hfirst.whole]
      | cons second rest =>
          have htext : (toText (first :: second :: rest)).drop 1 =
              first ++ '/' :: (toText (second :: rest)).drop 1 := by
            simp [toText]
          rw [htext, List.splitOnP_append_cons_of_forall_mem hfirst.whole '/' rfl,
            ih (List.cons_ne_nil _ _) hrest]

/-- A path that is written and read again is the same. -/
theorem parse_to_text (hsegments : segments ≠ [])
    (hsettled : ∀ segment ∈ segments, Settled segment) : parse (toText segments) = segments := by
  -- Neither encoding nor resolving finds anything to do.
  have hencoded : segments.map (Percent.encode Percent.isEscapedInPath) = segments := by
    conv => rhs; rw [← List.map_id segments]
    exact List.map_congr_left fun segment hmem =>
      Percent.encode_of_plain (hsettled segment hmem).encoded
  unfold parse
  rw [split_to_text hsegments hsettled, hencoded, resolve_of_settled hsettled]
  rfl

/-- The written form of a path consists of slashes and encoded characters. -/
theorem of_mem_to_text (hsettled : ∀ segment ∈ segments, Settled segment) {c : Char}
    (hmem : c ∈ toText segments) : c = '/' ∨ Percent.isEscapedInPath c = false := by
  obtain ⟨segment, hsegment, hc⟩ := List.mem_flatMap.mp hmem
  rcases List.mem_cons.mp hc with rfl | hc
  · exact .inl rfl
  · exact .inr ((hsettled segment hsegment).encoded c hc)

end PodcastLedger.Web.Path
