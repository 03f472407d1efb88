import PodcastLedger.Podcast.Catalog
import PodcastLedger.Proofs.Canonical.Stability

/-!
# Canonical forms in the store

A canonical form can be part of any statement and begins like the address of a web page, so the
catalog never refuses one: `bindable_of_canonical` and `web_url_of_canonical`. So the podcast that a
client means by a text can be looked for whatever the text is (`Store.select_raw_podcast_eq`).
-/

namespace PodcastLedger

namespace Web

variable {raw url : String}

/-- A canonical form has no null character. -/
theorem bindable_of_canonical (hcanonical : canonical? raw = some url) : IsBindable url := by
  obtain ⟨address, haddress, rfl⟩ := Option.map_eq_some_iff.mp hcanonical
  obtain ⟨hread, _⟩ := address_ok haddress
  unfold IsBindable
  rw [String.toList_ofList]
  intro hnull
  exact Address.not_mem_dropped hread hnull (by decide)

/-- A canonical form begins with one of the two schemes. -/
theorem web_url_of_canonical (hcanonical : canonical? raw = some url) : IsWebUrl url := by
  obtain ⟨address, _, rfl⟩ := Option.map_eq_some_iff.mp hcanonical
  have htext := (String.toList_ofList (l := address.toText)).trans address.to_text_eq
  unfold IsWebUrl
  rw [htext]
  cases address.scheme with
  | http => exact .inl ⟨_, rfl⟩
  | https => exact .inr ⟨_, rfl⟩

/-- A text is one of the canonical forms of a list exactly if one of the list has it. -/
theorem mem_canonical_all {raws : List String} :
    url ∈ canonicalAll raws ↔ ∃ raw ∈ raws, canonical? raw = some url :=
  mem_distinctTexts.trans List.mem_filterMap

/-- The canonical forms of a list ascend strictly. -/
theorem ascending_canonical_all (raws : List String) : (canonicalAll raws).Pairwise (· < ·) :=
  pairwise_distinctTexts _

/-- The canonical forms of a list can be stored. -/
theorem storable_of_mem_all {raws : List String} :
    ∀ url ∈ canonicalAll raws, IsBindable url ∧ IsWebUrl url := by
  intro url hmem
  obtain ⟨raw, _, hcanonical⟩ := mem_canonical_all.mp hmem
  exact ⟨bindable_of_canonical hcanonical, web_url_of_canonical hcanonical⟩

end Web

/-- A text means the podcast of its canonical form. -/
theorem Store.select_raw_podcast_eq (store : Store) (userId : Int) (raw : String) :
    store.selectRawPodcast userId raw =
      .ok ((Web.canonical? raw).bind (store.findPodcast? userId)) := by
  unfold selectRawPodcast
  cases hcanonical : Web.canonical? raw with
  | none => rfl
  | some url =>
      simp only [selectPodcast, require_of (Web.bindable_of_canonical hcanonical), bind,
        Except.bind, Option.bind_some]

end PodcastLedger
