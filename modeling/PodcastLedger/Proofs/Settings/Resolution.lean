import PodcastLedger.Proofs.Canonical.Storable
import PodcastLedger.Proofs.Ledger.Reachability

/-!
# Episodes that keys of settings name

A client names an episode by its address in any spelling, or by its identifier (GUID).
`Store.Means` is the rule: the address in canonical form comes first, then the text as an address,
then the text as an identifier, exactly as it was sent. `Store.Resolves` is what the look-up does.
The two are not the same. The look-up by the canonical form compares identifiers as well, so an
identifier that merely reads like the canonical form of a text comes before the episode that has the
text itself as its identifier (`Store.resolve_key_shadowed`). `Store.resolve_key_means_iff` says
that this, and a text that cannot be part of a statement, are the only ways to miss the rule.
-/

namespace PodcastLedger.Store

/-- The episode is the one with the least id among those of a podcast that have a property. -/
structure IsFirst (store : Store) (podcastId : Int) (holds : Episode → Prop)
    (episode : Entry Episode) : Prop where
  mem : episode ∈ store.episodes.entries
  podcast : episode.row.podcastId = podcastId
  has : holds episode.row
  least : ∀ other ∈ store.episodes.entries, other.row.podcastId = podcastId → holds other.row →
    episode.id ≤ other.id

/-- No episode of a podcast has a property. -/
def HasNone (store : Store) (podcastId : Int) (holds : Episode → Prop) : Prop :=
  ∀ episode ∈ store.episodes.entries, episode.row.podcastId = podcastId → ¬ holds episode.row

/-- The address of the episode is the canonical form of a text. -/
def HasCanonicalUrl (raw : String) (episode : Episode) : Prop :=
  Web.canonical? raw = some episode.url

/-- The address of the episode is the text as it is. -/
def HasUrl (text : String) (episode : Episode) : Prop :=
  episode.url = text

/-- The identifier of the episode is the text as it is. -/
def HasGuid (text : String) (episode : Episode) : Prop :=
  episode.guid = some text

/-- The identifier of the episode is the canonical form of a text. -/
def HasCanonicalGuid (raw : String) (episode : Episode) : Prop :=
  ∃ url, Web.canonical? raw = some url ∧ HasGuid url episode

/-- What a text means as the name of an episode of a podcast: the text is an address first, and then
an identifier exactly as it is. -/
inductive Means (store : Store) (podcastId : Int) (raw : String) :
    Except Failure (Entry Episode) → Prop where
  | canonical {episode : Entry Episode}
      (hfirst : store.IsFirst podcastId (HasCanonicalUrl raw) episode) :
      Means store podcastId raw (.ok episode)
  | url {episode : Entry Episode} (hcanonical : store.HasNone podcastId (HasCanonicalUrl raw))
      (hfirst : store.IsFirst podcastId (HasUrl raw) episode) : Means store podcastId raw (.ok episode)
  | guid {episode : Entry Episode} (hcanonical : store.HasNone podcastId (HasCanonicalUrl raw))
      (hurl : store.HasNone podcastId (HasUrl raw))
      (hfirst : store.IsFirst podcastId (HasGuid raw) episode) :
      Means store podcastId raw (.ok episode)
  | unknown (hcanonical : store.HasNone podcastId (HasCanonicalUrl raw))
      (hurl : store.HasNone podcastId (HasUrl raw)) (hguid : store.HasNone podcastId (HasGuid raw)) :
      Means store podcastId raw (.error (.unknownEpisode raw))

/-- What the look-up of an episode by a text does: the canonical form is compared with addresses and
identifiers, and then the text as it is, unless the statement cannot carry it. -/
inductive Resolves (store : Store) (podcastId : Int) (raw : String) :
    Except Failure (Entry Episode) → Prop where
  | canonical {episode : Entry Episode}
      (hfirst : store.IsFirst podcastId (HasCanonicalUrl raw) episode) :
      Resolves store podcastId raw (.ok episode)
  | canonicalGuid {episode : Entry Episode}
      (hcanonical : store.HasNone podcastId (HasCanonicalUrl raw))
      (hfirst : store.IsFirst podcastId (HasCanonicalGuid raw) episode) :
      Resolves store podcastId raw (.ok episode)
  | refused (hcanonical : store.HasNone podcastId (HasCanonicalUrl raw))
      (hcanonicalGuid : store.HasNone podcastId (HasCanonicalGuid raw))
      (hunbindable : ¬ IsBindable raw) :
      Resolves store podcastId raw (.error (.refused .selectEpisode))
  | url {episode : Entry Episode} (hcanonical : store.HasNone podcastId (HasCanonicalUrl raw))
      (hcanonicalGuid : store.HasNone podcastId (HasCanonicalGuid raw)) (hbindable : IsBindable raw)
      (hfirst : store.IsFirst podcastId (HasUrl raw) episode) :
      Resolves store podcastId raw (.ok episode)
  | guid {episode : Entry Episode} (hcanonical : store.HasNone podcastId (HasCanonicalUrl raw))
      (hcanonicalGuid : store.HasNone podcastId (HasCanonicalGuid raw)) (hbindable : IsBindable raw)
      (hurl : store.HasNone podcastId (HasUrl raw))
      (hfirst : store.IsFirst podcastId (HasGuid raw) episode) :
      Resolves store podcastId raw (.ok episode)
  | unknown (hcanonical : store.HasNone podcastId (HasCanonicalUrl raw))
      (hcanonicalGuid : store.HasNone podcastId (HasCanonicalGuid raw)) (hbindable : IsBindable raw)
      (hurl : store.HasNone podcastId (HasUrl raw)) (hguid : store.HasNone podcastId (HasGuid raw)) :
      Resolves store podcastId raw (.error (.unknownEpisode raw))

/-- An episode that the text does not name comes first because its identifier is the canonical form
of the text. -/
def Shadowed (store : Store) (podcastId : Int) (raw : String) : Prop :=
  store.HasNone podcastId (HasCanonicalUrl raw) ∧ Web.canonical? raw ≠ some raw ∧
    ∃ episode, store.IsFirst podcastId (HasCanonicalGuid raw) episode ∧ ¬ HasUrl raw episode.row

/-- The canonical form of the text names nothing, and the text itself cannot be asked for. -/
def Unasked (store : Store) (podcastId : Int) (raw : String) : Prop :=
  store.HasNone podcastId (HasCanonicalUrl raw) ∧
    store.HasNone podcastId (HasCanonicalGuid raw) ∧ ¬ IsBindable raw

variable {store : Store} {userId podcastId : Int} {raw text url : String}
  {holds : Episode → Prop} {episode other : Entry Episode}
  {outcome : Except Failure (Entry Episode)}

/-- There is at most one first episode. -/
theorem IsFirst.unique (hfirst : store.IsFirst podcastId holds episode)
    (hother : store.IsFirst podcastId holds other) : episode = other :=
  store.episodes.eq_of_id_eq hfirst.mem hother.mem <| Int.le_antisymm
    (hfirst.least other hother.mem hother.podcast hother.has)
    (hother.least episode hfirst.mem hfirst.podcast hfirst.has)

/-- Where there is a first episode, there is one. -/
theorem IsFirst.not_none (hfirst : store.IsFirst podcastId holds episode) :
    ¬ store.HasNone podcastId holds :=
  fun hnone => hnone episode hfirst.mem hfirst.podcast hfirst.has

/-- An episode is the first with its address, as no other has it. -/
theorem Consistent.first_url (hconsistent : store.Consistent)
    (hmem : episode ∈ store.episodes.entries) (hpodcast : episode.row.podcastId = podcastId)
    (hurl : HasUrl text episode.row) : store.IsFirst podcastId (HasUrl text) episode where
  mem := hmem
  podcast := hpodcast
  has := hurl
  least := by
    intro other hother hsame htext
    have hkey : episode.row.podcastId = other.row.podcastId ∧ episode.row.url = other.row.url :=
      ⟨hpodcast.trans hsame.symm, hurl.trans htext.symm⟩
    have hentry := hconsistent.episodes_unique.eq hmem hother (Prod.ext_iff.mpr hkey)
    exact Int.le_of_eq (congrArg Entry.id hentry)

/-! ## The look-up -/

/-- What is found among the episodes of a podcast is the first that has the property. -/
theorem find_first_iff {condition : Episode → Bool}
    (hcondition : ∀ row, condition row = true ↔ row.podcastId = podcastId ∧ holds row) :
    store.episodes.find? condition = some episode ↔ store.IsFirst podcastId holds episode := by
  rw [Table.find_eq_some_iff_least]
  simp only [hcondition]
  constructor
  · rintro ⟨hmem, ⟨hpodcast, hholds⟩, hleast⟩
    exact ⟨hmem, hpodcast, hholds, fun other hother hsame hother' =>
      hleast other hother ⟨hsame, hother'⟩⟩
  · intro hfirst
    exact ⟨hfirst.mem, ⟨hfirst.podcast, hfirst.has⟩, fun other hother hsame =>
      hfirst.least other hother hsame.1 hsame.2⟩

/-- Nothing is found among the episodes of a podcast if none has the property. -/
theorem find_none_iff {condition : Episode → Bool}
    (hcondition : ∀ row, condition row = true ↔ row.podcastId = podcastId ∧ holds row) :
    store.episodes.find? condition = none ↔ store.HasNone podcastId holds := by
  simp only [Table.find_eq_none_iff, ← Bool.not_eq_true, hcondition, not_and]
  exact Iff.rfl

/-- The look-up compares addresses first, and identifiers if no address is the text. -/
theorem match_episode_cases (store : Store) (podcastId : Int) (text : String) :
    (∃ episode, store.matchEpisode? podcastId text = some episode ∧
        store.IsFirst podcastId (HasUrl text) episode) ∨
      store.HasNone podcastId (HasUrl text) ∧
        ((∃ episode, store.matchEpisode? podcastId text = some episode ∧
            store.IsFirst podcastId (HasGuid text) episode) ∨
          (store.matchEpisode? podcastId text = none ∧
            store.HasNone podcastId (HasGuid text))) := by
  have hurl : ∀ row : Episode, (row.podcastId == podcastId && row.url == text) = true ↔
      row.podcastId = podcastId ∧ HasUrl text row := by
    simp [HasUrl]
  have hguid : ∀ row : Episode, (row.podcastId == podcastId && row.guid == some text) = true ↔
      row.podcastId = podcastId ∧ HasGuid text row := by
    simp [HasGuid]
  unfold matchEpisode?
  cases hfind : store.findEpisode? podcastId text with
  | some episode => exact .inl ⟨episode, rfl, (find_first_iff hurl).mp hfind⟩
  | none =>
      refine .inr ⟨(find_none_iff hurl).mp hfind, ?_⟩
      cases hother : store.findEpisodeByGuid? podcastId text with
      | some episode => exact .inl ⟨episode, rfl, (find_first_iff hguid).mp hother⟩
      | none => exact .inr ⟨rfl, (find_none_iff hguid).mp hother⟩

/-- To have the canonical form as the address is to have it. -/
theorem has_canonical_url_eq (hcanonical : Web.canonical? raw = some url) :
    HasCanonicalUrl raw = HasUrl url := by
  funext row
  simp [HasCanonicalUrl, HasUrl, hcanonical, eq_comm]

/-- To have the canonical form as the identifier is to have it. -/
theorem has_canonical_guid_eq (hcanonical : Web.canonical? raw = some url) :
    HasCanonicalGuid raw = HasGuid url := by
  funext row
  simp [HasCanonicalGuid, hcanonical]

/-- The look-up of an episode by its canonical form is never refused. -/
theorem select_raw_episode_eq (store : Store) (podcastId : Int) (raw : String) :
    store.selectRawEpisode podcastId raw =
      .ok ((Web.canonical? raw).bind (store.matchEpisode? podcastId)) := by
  unfold selectRawEpisode
  cases hcanonical : Web.canonical? raw with
  | none => rfl
  | some url =>
      simp only [selectEpisode, require_of (Web.bindable_of_canonical hcanonical), bind,
        Except.bind, Option.bind_some]

/-- What is found by the canonical form of a text, in its address or in its identifier. -/
theorem canonical_cases (store : Store) (podcastId : Int) (raw : String) :
    (∃ episode, store.selectRawEpisode podcastId raw = .ok (some episode) ∧
        store.IsFirst podcastId (HasCanonicalUrl raw) episode) ∨
      store.HasNone podcastId (HasCanonicalUrl raw) ∧
        ((∃ episode, store.selectRawEpisode podcastId raw = .ok (some episode) ∧
            store.IsFirst podcastId (HasCanonicalGuid raw) episode) ∨
          (store.selectRawEpisode podcastId raw = .ok none ∧
            store.HasNone podcastId (HasCanonicalGuid raw))) := by
  rw [select_raw_episode_eq]
  cases hcanonical : Web.canonical? raw with
  | none =>
      have hno : ∀ {url : String}, Web.canonical? raw ≠ some url := by simp [hcanonical]
      exact .inr ⟨fun _ _ _ h => hno h, .inr ⟨rfl, fun _ _ _ ⟨_, h, _⟩ => hno h⟩⟩
  | some url =>
      rw [has_canonical_url_eq hcanonical, has_canonical_guid_eq hcanonical]
      simpa using store.match_episode_cases podcastId url

/-- The look-up of an episode does one of six things. -/
theorem resolve_episode_resolves (store : Store) (podcastId : Int) (raw : String) :
    store.Resolves podcastId raw (store.resolveEpisode podcastId raw) := by
  unfold resolveEpisode
  obtain ⟨episode, hselect, hfirst⟩ | ⟨hcanonical, ⟨episode, hselect, hfirst⟩ | ⟨hselect, hguid⟩⟩ :=
    store.canonical_cases podcastId raw
  · rw [hselect]
    exact .canonical hfirst
  · rw [hselect]
    exact .canonicalGuid hcanonical hfirst
  · rw [hselect]
    change Resolves store podcastId raw (store.selectEpisode podcastId raw >>= _)
    unfold selectEpisode require
    split
    · next hbindable =>
        -- The text as it is can be asked for.
        obtain ⟨episode, hmatch, hfirst⟩ |
            ⟨hurl, ⟨episode, hmatch, hfirst⟩ | ⟨hmatch, hnone⟩⟩ :=
          store.match_episode_cases podcastId raw
        · rw [hmatch]
          exact .url hcanonical hguid hbindable hfirst
        · rw [hmatch]
          exact .guid hcanonical hguid hbindable hurl hfirst
        · rw [hmatch]
          exact .unknown hcanonical hguid hbindable hurl hnone
    · next hunbindable => exact .refused hcanonical hguid hunbindable

/-! ## The rule -/

/-- A text that is its own canonical form names an episode by its identifier as the rule has it,
if it names none by its address. -/
theorem means_of_own_form (hown : Web.canonical? raw = some raw)
    (hcanonical : store.HasNone podcastId (HasCanonicalUrl raw))
    (hfirst : store.IsFirst podcastId (HasCanonicalGuid raw) episode) :
    store.Means podcastId raw (.ok episode) := by
  have hurl := hcanonical
  rw [has_canonical_url_eq hown] at hurl
  rw [has_canonical_guid_eq hown] at hfirst
  exact .guid hcanonical hurl hfirst

/-- An episode with the canonical form as its identifier is what the rule has, for a text with
another canonical form, exactly if its address is the text. -/
theorem means_of_other_form_iff (hconsistent : store.Consistent)
    (hother : Web.canonical? raw ≠ some raw)
    (hcanonical : store.HasNone podcastId (HasCanonicalUrl raw))
    (hfirst : store.IsFirst podcastId (HasCanonicalGuid raw) episode) :
    store.Means podcastId raw (.ok episode) ↔ HasUrl raw episode.row := by
  constructor
  · intro hmeans
    cases hmeans with
    | canonical hnamed => exact absurd hcanonical hnamed.not_none
    | url _ hnamed => exact hnamed.has
    | guid _ _ hnamed =>
        obtain ⟨url, hform, hguid⟩ := hfirst.has
        obtain rfl : url = raw := Option.some.inj (hguid.symm.trans hnamed.has)
        exact absurd hform hother
  · intro hurl
    exact .url hcanonical (hconsistent.first_url hfirst.mem hfirst.podcast hurl)

/-- The look-up keeps to the rule unless the episode is shadowed or the text cannot be asked for. -/
theorem Consistent.means_iff (hconsistent : store.Consistent)
    (hresolves : store.Resolves podcastId raw outcome) :
    store.Means podcastId raw outcome ↔
      ¬ store.Shadowed podcastId raw ∧ ¬ store.Unasked podcastId raw := by
  have hclear (hguid : store.HasNone podcastId (HasCanonicalGuid raw)) (hbindable : IsBindable raw) :
      ¬ store.Shadowed podcastId raw ∧ ¬ store.Unasked podcastId raw :=
    ⟨fun ⟨_, _, _, hfirst, _⟩ => hfirst.not_none hguid,
      fun ⟨_, _, hunbindable⟩ => hunbindable hbindable⟩
  cases hresolves with
  | canonical hfirst =>
      exact iff_of_true (.canonical hfirst)
        ⟨fun ⟨hnone, _⟩ => hfirst.not_none hnone, fun ⟨hnone, _⟩ => hfirst.not_none hnone⟩
  | @canonicalGuid episode hcanonical hfirst =>
      have hasked : ¬ store.Unasked podcastId raw := fun ⟨_, hnone, _⟩ => hfirst.not_none hnone
      by_cases hown : Web.canonical? raw = some raw
      · exact iff_of_true (means_of_own_form hown hcanonical hfirst)
          ⟨fun ⟨_, hother, _⟩ => hother hown, hasked⟩
      · rw [means_of_other_form_iff hconsistent hown hcanonical hfirst]
        constructor
        · rintro hurl
          refine ⟨fun ⟨_, _, other, hother, hnot⟩ => hnot ?_, hasked⟩
          rwa [← hfirst.unique hother]
        · rintro ⟨hclear, _⟩
          exact by_contra fun hnot =>
            hclear ⟨hcanonical, hown, episode, hfirst, hnot⟩
  | refused hcanonical hguid hunbindable =>
      refine iff_of_false ?_ fun ⟨_, hasked⟩ => hasked ⟨hcanonical, hguid, hunbindable⟩
      rintro ⟨⟩
  | url hcanonical hguid hbindable hfirst =>
      exact iff_of_true (.url hcanonical hfirst) (hclear hguid hbindable)
  | guid hcanonical hguid hbindable hurl hfirst =>
      exact iff_of_true (.guid hcanonical hurl hfirst) (hclear hguid hbindable)
  | unknown hcanonical hguid hbindable hurl hnone =>
      exact iff_of_true (.unknown hcanonical hurl hnone) (hclear hguid hbindable)

/-- The key of an episode of a known podcast resolves to what the look-up finds, whatever the text
for the episode is, and this is what the text means unless the episode is shadowed or the text
cannot be asked for. -/
theorem resolve_key_means_iff (hreachable : store.Reachable) {podcast : Entry Podcast}
    (hpodcast : podcast ∈ store.podcasts.entries) {podcastRaw : String}
    (hnamed : Web.canonical? podcastRaw = some podcast.row.url) (raw : String) :
    ∃ outcome,
      store.resolveKey podcast.row.userId (.episode podcastRaw raw) =
        outcome.map (.episode podcast) ∧
      store.Resolves podcast.id raw outcome ∧
      (store.Means podcast.id raw outcome ↔
        ¬ store.Shadowed podcast.id raw ∧ ¬ store.Unasked podcast.id raw) := by
  have hconsistent := hreachable.consistent
  have hresolves := store.resolve_episode_resolves podcast.id raw
  refine ⟨_, ?_, hresolves, hconsistent.means_iff hresolves⟩
  have hfound : store.resolvePodcast podcast.row.userId podcastRaw = .ok podcast := by
    unfold resolvePodcast
    rw [select_raw_podcast_eq, hnamed, Option.bind_some,
      hconsistent.find_podcast_iff.mpr ⟨hpodcast, rfl, rfl⟩]
    rfl
  simp only [resolveKey, hfound, bind, Except.bind]
  cases store.resolveEpisode podcast.id raw <;> rfl

/-- A user acts on two episodes. The identifier of the first one reads like the address that the
identifier of the second one would be. -/
def episodesWithLikeGuids : List (String × Request) :=
  [("ann", .createUser "long enough" 10),
    ("ann", .addActions [⟨"download", none, "http://a.example/1", some "http://episode-2/",
        "http://a.example/feed", none, none, .ofUnix 1000, none⟩,
      ⟨"download", none, "http://a.example/2", some "episode-2", "http://a.example/feed", none,
        none, .ofUnix 2000, none⟩])]

/-- The first of the two episodes. -/
def shadowingEpisode : Entry Episode :=
  ⟨1, 1, "http://a.example/1", some "http://episode-2/"⟩

/-- The second of the two episodes. -/
def shadowedEpisode : Entry Episode :=
  ⟨2, 1, "http://a.example/2", some "episode-2"⟩

/-- These are all the episodes there are. -/
theorem episodes_with_like_guids :
    (Store.empty.run episodesWithLikeGuids).1.episodes.entries =
      [shadowingEpisode, shadowedEpisode] := by
  decide +kernel

/-- The identifier of the first episode names it, as it is an address in canonical form. -/
theorem resolve_key_by_guid :
    let store := (Store.empty.run episodesWithLikeGuids).1
    let podcast : Entry Podcast := ⟨1, .fresh 1 "http://a.example/feed"⟩
    store.resolveKey 1 (.episode "a.example/feed" "http://episode-2/") =
        .ok (.episode podcast shadowingEpisode) ∧
      store.Means 1 "http://episode-2/" (.ok shadowingEpisode) := by
  intro store podcast
  have hpodcast : podcast ∈ store.podcasts.entries := by decide +kernel
  have hnamed : Web.canonical? "a.example/feed" = some podcast.row.url := by decide +kernel
  have hown : Web.canonical? "http://episode-2/" = some "http://episode-2/" := by decide +kernel
  have hbindable : IsBindable "http://episode-2/" := by decide
  have hresolve : store.resolveKey 1 (.episode "a.example/feed" "http://episode-2/") =
      .ok (.episode podcast shadowingEpisode) := by
    decide +kernel
  obtain ⟨outcome, hkey, _, hmeans⟩ := resolve_key_means_iff
    (Reachable.empty.run episodesWithLikeGuids) hpodcast hnamed "http://episode-2/"
  obtain ⟨episode, rfl, hepisode⟩ := map_eq_ok_iff.mp (hkey.symm.trans hresolve)
  obtain rfl : episode = shadowingEpisode := (ResolvedKey.episode.inj hepisode).2
  exact ⟨hresolve, hmeans.mpr
    ⟨fun ⟨_, hother, _⟩ => hother hown, fun ⟨_, _, hunbindable⟩ => hunbindable hbindable⟩⟩

/-- The identifier of the second episode names the first one, though no address is the text or its
canonical form and only the second episode has the text as its identifier. -/
theorem resolve_key_shadowed :
    let store := (Store.empty.run episodesWithLikeGuids).1
    let podcast : Entry Podcast := ⟨1, .fresh 1 "http://a.example/feed"⟩
    store.Reachable ∧
      store.resolveKey 1 (.episode "http://a.example/feed" "episode-2") =
        .ok (.episode podcast shadowingEpisode) ∧
      store.Means 1 "episode-2" (.ok shadowedEpisode) ∧
      ¬ store.Means 1 "episode-2" (.ok shadowingEpisode) := by
  intro store podcast
  have hform : Web.canonical? "episode-2" = some "http://episode-2/" := by decide +kernel
  have hcanonical : store.HasNone 1 (HasCanonicalUrl "episode-2") := by
    rw [has_canonical_url_eq hform]
    unfold HasNone HasUrl
    rw [episodes_with_like_guids]
    decide
  have hurl : store.HasNone 1 (HasUrl "episode-2") := by
    unfold HasNone HasUrl
    rw [episodes_with_like_guids]
    decide
  have hfirst : store.IsFirst 1 (HasGuid "episode-2") shadowedEpisode := by
    have hmem : shadowedEpisode ∈ store.episodes.entries := by
      rw [episodes_with_like_guids]
      decide
    refine ⟨hmem, rfl, rfl, ?_⟩
    unfold HasGuid
    rw [episodes_with_like_guids]
    decide
  refine ⟨Reachable.empty.run episodesWithLikeGuids, by decide +kernel,
    .guid hcanonical hurl hfirst, fun hmeans => ?_⟩
  cases hmeans with
  | canonical hother => exact hother.not_none hcanonical
  | url _ hother => exact hother.not_none hurl
  | guid _ _ hother => exact absurd (hother.unique hfirst) (by decide)

end PodcastLedger.Store
