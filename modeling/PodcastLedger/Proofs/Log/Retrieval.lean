import PodcastLedger.Proofs.Ledger.Evolution
import PodcastLedger.Proofs.Listing.Readers
import PodcastLedger.Proofs.Log.Logging
import PodcastLedger.Proofs.Settings.Resolution
import PodcastLedger.Proofs.Settings.Saving

/-!
# Finding what was logged

An action is stored under a podcast and an episode in canonical form, and clients ask for both in
any spelling and in many ways. `Store.Finds` says that all of them lead to the same rows: keys of
settings, the listing, the last action, and the favorites. `Store.found_by_every_reader` proves it
for each action of a batch that was just stored, whatever identifiers and addresses the other
episodes have.
-/

namespace PodcastLedger.Store

variable {store next : Store} {userId : Int} {user : Entry User} {podcast : Entry Podcast}
  {episode : Entry Episode} {action : Entry EpisodeAction} {podcastRaw raw : String}

/-- Texts name an episode of a podcast of the user by their addresses. -/
structure Names (store : Store) (userId : Int) (podcastRaw raw : String) (podcast : Entry Podcast)
    (episode : Entry Episode) : Prop where
  mem_podcast : podcast ∈ store.podcasts.entries
  owner : podcast.row.userId = userId
  podcast_url : Web.canonical? podcastRaw = some podcast.row.url
  mem_episode : episode ∈ store.episodes.entries
  of_podcast : episode.row.podcastId = podcast.id
  episode_url : Web.canonical? raw = some episode.row.url

/-- All ways to ask for a logged action under two texts find it. The texts resolve to the rows that
it was stored under; it is listed for the podcast, which has a last action; and if its episode is
marked as a favorite under the texts, there is one favorite of the episode, and the others are as
before. -/
structure Finds (store : Store) (user : Entry User) (podcastRaw raw : String)
    (action : Entry EpisodeAction) : Prop where
  resolves : ∃ podcast episode, podcast.id = action.row.podcastId ∧
    episode.id = action.row.episodeId ∧
    podcast ∈ store.podcasts.entries ∧ episode ∈ store.episodes.entries ∧
    store.resolveKey user.id (.podcast podcastRaw) = .ok (.podcast podcast) ∧
    store.resolveKey user.id (.episode podcastRaw raw) = .ok (.episode podcast episode)
  listed : ∃ view, store.view? user.id action = some view ∧
    ∀ order, ∃ views, store.listActions user.row.name
        ⟨false, none, none, order, some podcastRaw, none⟩ = .ok views ∧ view ∈ views
  last : ∃ view, store.lastAction user.row.name podcastRaw false = .ok view
  marked : ∃ favorites marked values view, ∃ next : Store,
    store.favorites user.row.name = .ok favorites ∧
    store.saveSettings user.row.name (.episode podcastRaw raw) [(favoriteKey, "true")] [] =
      .ok (next, values) ∧
    next.favorites user.row.name = .ok marked ∧
    marked.filter (·.episodeId == action.row.episodeId) = [view] ∧
    marked.filter (·.episodeId != action.row.episodeId) =
      favorites.filter (·.episodeId != action.row.episodeId)

/-! ## Keys -/

/-- A text that names a podcast by its address resolves to it. -/
theorem Consistent.resolve_podcast (hconsistent : store.Consistent)
    (hpodcast : podcast ∈ store.podcasts.entries) (howner : podcast.row.userId = userId)
    (hcanonical : Web.canonical? podcastRaw = some podcast.row.url) :
    store.resolvePodcast userId podcastRaw = .ok podcast := by
  unfold resolvePodcast
  rw [select_raw_podcast_eq, hcanonical, Option.bind_some,
    hconsistent.find_podcast_iff.mpr ⟨hpodcast, howner, rfl⟩]
  rfl

/-- A text that names an episode by its address resolves to it: addresses come before identifiers,
and no other episode of the podcast has the address. -/
theorem Consistent.resolve_episode (hconsistent : store.Consistent)
    (hepisode : episode ∈ store.episodes.entries) (hof : episode.row.podcastId = podcast.id)
    (hcanonical : Web.canonical? raw = some episode.row.url) :
    store.resolveEpisode podcast.id raw = .ok episode := by
  have hmatch : store.matchEpisode? podcast.id episode.row.url = some episode := by
    unfold matchEpisode?
    rw [hconsistent.find_episode_iff.mpr ⟨hepisode, hof, rfl⟩, Option.some_or]
  unfold resolveEpisode
  rw [select_raw_episode_eq, hcanonical, Option.bind_some, hmatch]
  rfl

/-- The texts resolve to the podcast, and to the episode with it. -/
theorem Consistent.resolve_names (hconsistent : store.Consistent)
    (hnames : store.Names userId podcastRaw raw podcast episode) :
    store.resolveKey userId (.podcast podcastRaw) = .ok (.podcast podcast) ∧
      store.resolveKey userId (.episode podcastRaw raw) = .ok (.episode podcast episode) := by
  have hpodcast := hconsistent.resolve_podcast hnames.mem_podcast hnames.owner hnames.podcast_url
  have hepisode :=
    hconsistent.resolve_episode hnames.mem_episode hnames.of_podcast hnames.episode_url
  unfold resolveKey
  simp only [hpodcast, hepisode, bind, Except.bind, and_self]

/-! ## Listings -/

/-- A logged action of a podcast is listed for it, in either order. -/
theorem Consistent.listed_of_podcast (hconsistent : store.Consistent)
    (hmem : user ∈ store.users.entries) (haction : action ∈ store.actions.entries)
    (hnames : store.Names user.id podcastRaw raw podcast episode)
    (hpodcastId : podcast.id = action.row.podcastId) :
    ∃ view, store.view? user.id action = some view ∧
      ∀ order, ∃ views, store.listActions user.row.name
          ⟨false, none, none, order, some podcastRaw, none⟩ = .ok views ∧ view ∈ views := by
  obtain ⟨view, hview⟩ := hconsistent.view_of_owned haction
    ⟨podcast, hnames.mem_podcast, hpodcastId, hnames.owner⟩
  have hfind := hconsistent.find_podcast_iff.mpr ⟨hnames.mem_podcast, hnames.owner, rfl⟩
  have hurl := (hconsistent.view_podcast_iff hview hfind).mpr hpodcastId.symm
  refine ⟨view, hview, fun order => ⟨_, hconsistent.list_actions_unbounded hmem rfl rfl, ?_⟩⟩
  refine (ActionView.sort_perm order _).mem_iff.mpr (List.mem_filter.mpr ⟨?_, ?_⟩)
  · exact List.mem_filterMap.mpr ⟨action, by rwa [List.filter_true], hview⟩
  · simp [ActionQuery.selects, hnames.podcast_url, hurl, isAfter]

/-- A podcast of which an action is listed has a last action. -/
theorem Consistent.last_of_podcast (hconsistent : store.Consistent)
    (hmem : user ∈ store.users.entries) {view : ActionView} {views : List ActionView}
    (hlist : store.listActions user.row.name (.ofPodcast podcastRaw) = .ok views)
    (hview : view ∈ views) :
    ∃ last, store.lastAction user.row.name podcastRaw false = .ok last := by
  rw [hconsistent.list_of_podcast hmem] at hlist
  rw [hconsistent.last_action_eq hmem, Except.ok.inj hlist]
  have hfound : (views.find? (ActionView.wanted false)).isSome = true :=
    List.find?_isSome.mpr ⟨view, hview, rfl⟩
  obtain ⟨last, hlast⟩ := Option.isSome_iff_exists.mp hfound
  rw [hlast]
  exact ⟨last, rfl⟩

/-! ## Favorites -/

/-- Of views of different episodes one is of the episode of a view that is among them. -/
theorem filter_episode_eq {views : List ActionView}
    (hepisodes : (views.map ActionView.episodeId).Nodup) {view : ActionView}
    (hview : view ∈ views) :
    views.filter (·.episodeId == view.episodeId) = [view] := by
  have hsame : ∀ other ∈ views, (other.episodeId == view.episodeId) = (other == view) := by
    intro other hother
    rw [Bool.eq_iff_iff, beq_iff_eq, beq_iff_eq]
    exact ⟨List.inj_on_of_nodup_map hepisodes hother hview, congrArg _⟩
  rw [List.filter_congr hsame, List.filter_beq,
    List.count_eq_one_of_mem (List.Nodup.of_map _ hepisodes) hview, List.replicate_one]

/-- Saving the mark under the key of an episode marks it, and leaves the marks of all others. -/
theorem Saved.is_favorite (hnames : store.Names userId podcastRaw raw podcast episode)
    {previous : List (String × String)}
    (hsaved : store.Saved next userId (ResolvedKey.episode podcast episode).target
      [(favoriteKey, "true")] [] previous
      (next.settingsOf userId (ResolvedKey.episode podcast episode).target))
    (episodeId : Int) :
    next.isFavorite userId episodeId =
      (episodeId == episode.id || store.isFavorite userId episodeId) := by
  have hkey : next.episodeKey? episodeId = store.episodeKey? episodeId := by
    rw [hsaved.settings_only]
    rfl
  unfold isFavorite
  rw [hkey]
  by_cases hepisode : episodeId = episode.id
  · subst hepisode
    have hmarked : (next.settingsOf userId (ResolvedKey.episode podcast episode).target).lookup
        favoriteKey = some "true" := hsaved.bound favoriteKey
    rw [episode_key_iff.mpr ⟨podcast, hnames.mem_podcast, episode, hnames.mem_episode, rfl,
      hnames.of_podcast.symm, rfl⟩, Option.any_some, hmarked, beq_self_eq_true, beq_self_eq_true,
      Bool.true_or]
  · rw [beq_eq_false_iff_ne.mpr hepisode, Bool.false_or]
    cases hresolved : store.episodeKey? episodeId with
    | none => rfl
    | some resolved =>
        obtain ⟨otherPodcast, _, other, _, rfl, _, rfl⟩ := episode_key_iff.mp hresolved
        rw [Option.any_some, Option.any_some, hsaved.others userId _ fun hsame => hepisode ?_]
        exact (Target.episode.inj (Prod.mk.inj hsame).2).2

/-- Marking an episode with actions as a favorite lists it once and leaves the other favorites. -/
theorem Consistent.marked_once (hconsistent : store.Consistent)
    (hmem : user ∈ store.users.entries) (haction : action ∈ store.actions.entries)
    (hnames : store.Names user.id podcastRaw raw podcast episode)
    (hepisodeId : episode.id = action.row.episodeId) :
    ∃ favorites marked values view, ∃ next : Store,
      store.favorites user.row.name = .ok favorites ∧
      store.saveSettings user.row.name (.episode podcastRaw raw) [(favoriteKey, "true")] [] =
        .ok (next, values) ∧
      next.favorites user.row.name = .ok marked ∧
      marked.filter (·.episodeId == action.row.episodeId) = [view] ∧
      marked.filter (·.episodeId != action.row.episodeId) =
        favorites.filter (·.episodeId != action.row.episodeId) := by
  have hkeys : ([(favoriteKey, "true")].map Prod.fst).Nodup := List.nodup_singleton _
  have hkeeps : ¬ BreaksRules [(favoriteKey, "true")] [] := by decide
  obtain ⟨next, hsave, hsaved⟩ := hconsistent.save_settings hmem
    (hconsistent.resolve_names hnames).2 hkeys hkeeps (by decide) (by decide)
  have hnext := hconsistent.saving hmem hsave
  have hviews : next.views user.id (fun _ => true) = store.views user.id fun _ => true := by
    rw [hsaved.settings_only]
    rfl
  have huser : user ∈ next.users.entries := by
    rw [hsaved.settings_only]
    exact hmem
  have hfavorite := hsaved.is_favorite hnames
  obtain ⟨view, hview, hid⟩ := (hconsistent.has_last_iff hnames.mem_podcast hnames.owner
    hnames.mem_episode hnames.of_podcast).mpr ⟨action, haction, hepisodeId.symm⟩
  refine ⟨_, _, _, view, next, hconsistent.favorites_eq hmem, hsave, hnext.favorites_eq huser, ?_,
    ?_⟩
  · have honce := filter_episode_eq (ActionView.nodup_sort_latest .descending _)
      ((ActionView.sort_perm .descending _).mem_iff.mpr hview)
    rw [hid, hepisodeId] at honce
    rw [hviews, List.filter_filter, ← honce]
    refine List.filter_congr fun other _ => ?_
    rw [hfavorite, hepisodeId]
    cases other.episodeId == action.row.episodeId <;> rfl
  · rw [hviews, List.filter_filter, List.filter_filter]
    refine List.filter_congr fun other _ => ?_
    rw [hfavorite, hepisodeId, bne]
    cases other.episodeId == action.row.episodeId <;> rfl

/-! ## Batches -/

/-- All ways to ask for a logged action under texts that name what it was stored under find it. -/
theorem Consistent.finds (hconsistent : store.Consistent) (hmem : user ∈ store.users.entries)
    (haction : action ∈ store.actions.entries)
    (hnames : store.Names user.id podcastRaw raw podcast episode)
    (hpodcastId : podcast.id = action.row.podcastId)
    (hepisodeId : episode.id = action.row.episodeId) :
    store.Finds user podcastRaw raw action := by
  obtain ⟨hpodcast, hepisode⟩ := hconsistent.resolve_names hnames
  obtain ⟨view, hview, hlisted⟩ := hconsistent.listed_of_podcast hmem haction hnames hpodcastId
  obtain ⟨views, hlist, hin⟩ := hlisted .descending
  exact
    { resolves := ⟨podcast, episode, hpodcastId, hepisodeId, hnames.mem_podcast, hnames.mem_episode,
        hpodcast, hepisode⟩
      listed := ⟨view, hview, hlisted⟩
      last := hconsistent.last_of_podcast hmem hlist hin
      marked := hconsistent.marked_once hmem haction hnames hepisodeId }

/-- Right after a batch was stored, all ways to ask for each of its actions find it, under any
spelling of the addresses that the client sent. Other episodes of the podcast make no difference,
not even if an identifier of theirs is the address that is asked for. -/
theorem found_by_every_reader (hreachable : store.Reachable) (hmem : user ∈ store.users.entries)
    {uploads : List ActionUpload} {added : ActionsAdded}
    (hadd : store.addActions user.row.name uploads = .ok (next, added)) :
    List.Forall₂ (fun upload action => ∀ podcastRaw raw,
        Web.canonical? podcastRaw = Web.canonical? upload.podcast →
        Web.canonical? raw = Web.canonical? upload.episode → next.Finds user podcastRaw raw action)
      uploads added.actions := by
  have hconsistent := hreachable.consistent
  have hlogged := hconsistent.logged_actions hmem hadd
  have hanswer : store.answer user.row.name (.addActions uploads) =
      .ok (next, .actionsAdded added) := congrArg (write Answer.actionsAdded) hadd
  have hnext : next.Consistent := by
    have hstep := hconsistent.step user.row.name (.addActions uploads)
    rwa [step_of_answer hanswer] at hstep
  have huser : user ∈ next.users.entries := by
    rw [hlogged.users]
    exact hmem
  have hin : ∀ action ∈ added.actions, action ∈ next.actions.entries := by
    intro action haction
    rw [hlogged.log]
    exact List.mem_append_right _ haction
  have hrecords : List.Forall₂ (fun upload action =>
      action ∈ next.actions.entries ∧ next.Records user.id upload action.row)
      uploads added.actions :=
    ((List.forall₂_and_left _ _).mpr ⟨hin, hlogged.records.flip⟩).flip
  refine hrecords.imp fun upload action hrecord podcastRaw raw hpodcastRaw hraw => ?_
  obtain ⟨haction, hrecord⟩ := hrecord
  obtain ⟨podcast, hpodcast, hpodcastId, howner, hpodcastUrl⟩ := hrecord.podcast
  obtain ⟨episode, hepisode, hepisodeId, hof, hepisodeUrl⟩ := hrecord.episode
  exact hnext.finds huser haction
    ⟨hpodcast, howner, hpodcastRaw.trans hpodcastUrl, hepisode, hof.trans hpodcastId.symm,
      hraw.trans hepisodeUrl⟩ hpodcastId hepisodeId

/-- Two episodes of which each has the address of the other one as its identifier. -/
def crossedUploads : List ActionUpload :=
  let upload := fun episode guid => ActionUpload.mk "download" none episode (some guid)
    "http://a.example/feed" none none (.ofUnix 1000) none
  [upload "http://a.example/1" "http://a.example/2",
    upload "http://a.example/2" "http://a.example/1"]

/-- Each of the two episodes is found under its own address in another spelling. -/
theorem crossed_uploads_found :
    let store := (Store.empty.run [("ann", .createUser "long enough" 10)]).1
    let user : Entry User := ⟨1, "ann", false, 10⟩
    ∃ next first second rewrites,
      store.addActions "ann" crossedUploads = .ok (next, ⟨[first, second], rewrites⟩) ∧
      first.row.episodeId = 1 ∧ second.row.episodeId = 2 ∧
      next.Finds user "HTTP://A.example/feed#top" "A.example/1" first ∧
      next.Finds user "HTTP://A.example/feed#top" "http://a.example:80/2" second := by
  intro store user
  have hmem : user ∈ store.users.entries := by decide +kernel
  have hresult : (store.addActions "ann" crossedUploads).toOption.map (fun result =>
      result.2.actions.map (·.row.episodeId)) = some [1, 2] := by
    decide +kernel
  have hpodcast : Web.canonical? "HTTP://A.example/feed#top" =
      Web.canonical? "http://a.example/feed" := by
    decide +kernel
  have hfirst : Web.canonical? "A.example/1" = Web.canonical? "http://a.example/1" := by
    decide +kernel
  have hsecond : Web.canonical? "http://a.example:80/2" = Web.canonical? "http://a.example/2" := by
    decide +kernel
  cases hadd : store.addActions "ann" crossedUploads with
  | error failure =>
      rw [hadd] at hresult
      cases hresult
  | ok result =>
      obtain ⟨next, ⟨actions, rewrites⟩⟩ := result
      rw [hadd] at hresult
      have hfound := found_by_every_reader (Reachable.empty.run _) hmem hadd
      cases hfound with
      | cons hfirstFound hrest =>
          cases hrest with
          | cons hsecondFound hnil =>
              cases hnil
              obtain ⟨hfirstId, hids⟩ := List.cons.inj (Option.some.inj hresult)
              exact ⟨next, _, _, rewrites, rfl, hfirstId, (List.cons.inj hids).1,
                hfirstFound _ _ hpodcast hfirst, hsecondFound _ _ hpodcast hsecond⟩

end PodcastLedger.Store
