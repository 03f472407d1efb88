import PodcastLedger.Proofs.Log.Batches
import PodcastLedger.Proofs.Uploads.Change

/-!
# What clients are told to rewrite

An upload notes which texts differ from the addresses that they stand for. A client that replaces
each text as noted and drops what is empty then (`Web.adopted`) has the canonical forms of its texts,
in their order (`Web.adopted_eq`), and so the addresses that the store has for them:
`Store.rewrites_align`.
-/

namespace PodcastLedger

namespace Web

variable {raw url : String} {raws all : List String} {noted : List Rewrite}

/-! ## Notes -/

/-- The canonical form of a text, and the notes with one more if the text differs from it. -/
def canonicalNoting (raw : String) (noted : List Rewrite) : Option String × List Rewrite :=
  match canonical? raw with
  | some url => if url ≠ raw then (some url, noted ++ [⟨raw, url⟩]) else (some url, noted)
  | none => (none, noted ++ [⟨raw, ""⟩])

/-- The set of canonical forms with the one of a text, and the notes with the one on the text. -/
def gatherNoting (gathered : List String × List Rewrite) (raw : String) :
    List String × List Rewrite :=
  let (canonical, noted) := canonicalNoting raw gathered.2
  (canonical.elim gathered.1 (insertText · gathered.1), noted)

/-- The set of the canonical forms of texts, gathered one after the other, and the notes with those
on the texts behind. -/
def canonicalAllNoting (raws : List String) (noted : List Rewrite) :
    List String × List Rewrite :=
  raws.foldl gatherNoting ([], noted)

/-- A text is noted with what it should have been. -/
theorem canonical_noting_eq (raw : String) (noted : List Rewrite) :
    canonicalNoting raw noted = (canonical? raw, noted ++ (rewrite? raw).toList) := by
  unfold canonicalNoting rewrite?
  cases canonical? raw with
  | none => rfl
  | some url =>
      by_cases hsame : url = raw
      · simp [hsame]
      · simp [hsame]

/-- Texts may be gathered from either end. -/
theorem foldl_insert_text (texts : List String) :
    texts.foldl (fun urls url => insertText url urls) [] = distinctTexts texts := by
  rw [← List.foldr_reverse]
  refine (pairwise_distinctTexts _).eq_of_mem_iff (pairwise_distinctTexts _) fun text => ?_
  exact mem_distinctTexts.trans (List.mem_reverse.trans mem_distinctTexts.symm)

/-- To gather canonical forms one after the other is to take them all, and to note what differs on
the way is to note it for the list. -/
theorem canonical_all_noting_eq (raws : List String) (noted : List Rewrite) :
    canonicalAllNoting raws noted = (canonicalAll raws, noted ++ rewrites raws) := by
  have hfold : ∀ (raws urls : List String) (noted : List Rewrite),
      raws.foldl gatherNoting (urls, noted) =
        ((raws.filterMap canonical?).foldl (fun urls url => insertText url urls) urls,
          noted ++ rewrites raws) := by
    intro raws
    induction raws with
    | nil =>
        intro urls noted
        exact congrArg (urls, ·) (List.append_nil noted).symm
    | cons raw rest ih =>
        intro urls noted
        rw [List.foldl_cons, gatherNoting, canonical_noting_eq]
        refine (ih _ _).trans (Prod.ext ?_ ?_)
        · cases hcanonical : canonical? raw <;> simp [hcanonical]
        · cases hrewrite : rewrite? raw <;> simp [rewrites, hrewrite]
  exact (hfold raws [] noted).trans (congrArg (·, _) (foldl_insert_text _))

/-- The notes on a list are on its texts that differ from what they stand for, in their order. -/
theorem rewrites_eq (raws : List String) :
    rewrites raws = (raws.filter fun raw => decide (canonical? raw ≠ some raw)).map fun raw =>
      ⟨raw, (canonical? raw).getD ""⟩ := by
  unfold rewrites
  rw [← List.filterMap_eq_map, List.filterMap_filter]
  refine List.filterMap_congr fun raw _ => ?_
  unfold rewrite?
  cases hcanonical : canonical? raw with
  | none => simp [hcanonical]
  | some url => by_cases hsame : url = raw <;> simp [hcanonical, hsame]

/-- A note on a text of a list says what the text stands for. -/
theorem mem_rewrites_iff {rewrite : Rewrite} :
    rewrite ∈ rewrites raws ↔ rewrite.raw ∈ raws ∧ canonical? rewrite.raw ≠ some rewrite.raw ∧
      rewrite.canonical = (canonical? rewrite.raw).getD "" := by
  rw [rewrites_eq, List.mem_map]
  constructor
  · rintro ⟨raw, hmem, rfl⟩
    obtain ⟨hraw, hdiffers⟩ := List.mem_filter.mp hmem
    exact ⟨hraw, of_decide_eq_true hdiffers, rfl⟩
  · rintro ⟨hraw, hdiffers, hcanonical⟩
    refine ⟨rewrite.raw, List.mem_filter.mpr ⟨hraw, decide_eq_true hdiffers⟩, ?_⟩
    rw [← hcanonical]

/-- No two notes disagree about a text. -/
def Agreeing (noted : List Rewrite) : Prop :=
  ∀ first ∈ noted, ∀ second ∈ noted, first.raw = second.raw → first = second

/-- The notes on a list agree. -/
theorem agreeing_rewrites (raws : List String) : Agreeing (rewrites raws) := by
  rintro ⟨raw, first⟩ hfirst ⟨_, second⟩ hsecond rfl
  rw [show first = _ from (mem_rewrites_iff.mp hfirst).2.2,
    show second = _ from (mem_rewrites_iff.mp hsecond).2.2]

/-! ## Adoption -/

/-- What a text is for a client that follows the notes: the second part of its note, or the text as
it is if there is none. -/
def adopt (noted : List Rewrite) (raw : String) : String :=
  ((noted.find? fun rewrite => rewrite.raw == raw).map Rewrite.canonical).getD raw

/-- What texts are for a client that follows the notes and drops what is empty then. -/
def adopted (noted : List Rewrite) (raws : List String) : List String :=
  (raws.map (adopt noted)).filter (· ≠ "")

/-- A text that is noted among others becomes what it stands for, or empty. -/
theorem adopt_eq (hmem : raw ∈ all) : adopt (rewrites all) raw = (canonical? raw).getD "" := by
  unfold adopt
  cases hfind : (rewrites all).find? fun rewrite => rewrite.raw == raw with
  | some rewrite =>
      obtain ⟨_, _, hcanonical⟩ := mem_rewrites_iff.mp (List.mem_of_find?_eq_some hfind)
      have hraw : rewrite.raw = raw := by simpa using List.find?_some hfind
      rw [Option.map_some, Option.getD_some, hcanonical, hraw]
  | none =>
      have hsame : canonical? raw = some raw := by
        by_contra hdiffers
        have hnoted : ⟨raw, (canonical? raw).getD ""⟩ ∈ rewrites all :=
          mem_rewrites_iff.mpr ⟨hmem, hdiffers, rfl⟩
        exact absurd (List.find?_eq_none.mp hfind _ hnoted) (by simp)
      rw [Option.map_none, Option.getD_none, hsame, Option.getD_some]

/-- A client that follows the notes has the canonical forms of its texts. -/
theorem adopted_eq (hsubset : raws ⊆ all) :
    adopted (rewrites all) raws = raws.filterMap canonical? := by
  unfold adopted
  rw [List.filter_map, ← List.filterMap_eq_map, List.filterMap_filter]
  refine List.filterMap_congr fun raw hmem => ?_
  simp only [Function.comp_apply, adopt_eq (hsubset hmem)]
  cases hcanonical : canonical? raw with
  | none => rfl
  | some url =>
      have hgiven : url ≠ "" := by
        rintro rfl
        exact absurd (web_url_of_canonical hcanonical) (by decide)
      simp [hgiven]

end Web

/-- A client that follows the notes has the addresses that its texts mean. -/
theorem requested_eq_adopted {raws all : List String} (hsubset : raws ⊆ all) :
    {url | url ∈ Web.adopted (Web.rewrites all) raws} = requested raws := by
  rw [Web.adopted_eq hsubset]
  exact Set.ext fun url => List.mem_filterMap

namespace Store

variable {store next : Store} {user : Entry User} {device : String} {timestamp : Instant}
  {raws add remove : List String} {update : SubscriptionUpdate} {uploads : List ActionUpload}
  {added : ActionsAdded}

/-! ## Uploads -/

/-- After a replacement the user is subscribed to the requested addresses. -/
theorem subscribed_replaced :
    (store.uploaded user.id device (Web.canonicalAll raws) (withdraws raws) timestamp).subscribed
      user.id = requested raws := by
  rw [subscribed_uploaded, requested_eq]
  ext url
  by_cases hurl : url ∈ Web.canonicalAll raws <;> simp [withdraws, hurl]

/-- What has the notes on a replacement followed is what the user is subscribed to. -/
theorem Consistent.replacement_adopted (hconsistent : store.Consistent)
    (hmem : user ∈ store.users.entries) (hreplace :
      store.replaceSubscriptions user.row.name device timestamp raws = .ok (next, update)) :
    Web.Agreeing update.rewrites ∧
      next.subscribed user.id = {url | url ∈ Web.adopted update.rewrites raws} := by
  obtain ⟨_, _, rfl, rfl⟩ :=
    (replace_subscriptions_iff (hconsistent.load_user hmem)).mp hreplace
  exact ⟨Web.agreeing_rewrites raws,
    subscribed_replaced.trans (requested_eq_adopted (List.Subset.refl raws)).symm⟩

/-- What has the notes on a change followed is what was added and removed. -/
theorem Consistent.change_adopted (hconsistent : store.Consistent)
    (hmem : user ∈ store.users.entries) (hchange :
      store.changeSubscriptions user.row.name device timestamp add remove = .ok (next, update)) :
    let added := {url | url ∈ Web.adopted update.rewrites add}
    let removed := {url | url ∈ Web.adopted update.rewrites remove}
    Web.Agreeing update.rewrites ∧ Disjoint added removed ∧
      next.subscribed user.id = (store.subscribed user.id ∪ added) \ removed ∧
      addresses update.subscribed = added \ store.subscribed user.id ∧
      addresses update.unsubscribed = removed ∩ store.subscribed user.id := by
  obtain ⟨⟨hname, huser⟩, hdisjoint, _, rfl, rfl⟩ :=
    (change_subscriptions_iff (hconsistent.load_user hmem)).mp hchange
  intro added removed
  have hadded : added = requested add := requested_eq_adopted (List.subset_append_left add remove)
  have hremoved : removed = requested remove :=
    requested_eq_adopted (List.subset_append_right add remove)
  have hends : {url | (Web.canonicalAll remove).contains url = true} = requested remove :=
    Set.ext fun url => contains_iff_requested
  rw [hadded, hremoved]
  refine ⟨Web.agreeing_rewrites _, hdisjoint, ?_, ?_, ?_⟩
  · rw [subscribed_uploaded, hends, requested_eq add]
  · rw [hconsistent.addresses_subscribed huser hname, requested_eq]
  · rw [addresses_unsubscribed, Set.inter_comm, ← hends]
    rfl

/-- The podcast and the episode that an action refers to have the addresses. -/
structure HasAddresses (store : Store) (action : EpisodeAction) (podcastUrl episodeUrl : String) :
    Prop where
  podcast : ∃ podcast ∈ store.podcasts.entries, podcast.id = action.podcastId ∧
    podcast.row.url = podcastUrl
  episode : ∃ episode ∈ store.episodes.entries, episode.id = action.episodeId ∧
    episode.row.url = episodeUrl

/-- What has the notes on a batch followed are the addresses of the stored actions. -/
theorem Consistent.batch_adopted (hconsistent : store.Consistent)
    (hmem : user ∈ store.users.entries)
    (hadd : store.addActions user.row.name uploads = .ok (next, added)) :
    Web.Agreeing added.rewrites ∧
      next.actions.entries = store.actions.entries ++ added.actions ∧
      List.Forall₂ (fun upload action => next.HasAddresses action.row
        (Web.adopt added.rewrites upload.podcast) (Web.adopt added.rewrites upload.episode))
        uploads added.actions := by
  have hlogged := hconsistent.logged_actions hmem hadd
  obtain ⟨_, _, _, _, _, _, _, _, _, hrewrites⟩ := add_actions_iff.mp hadd
  rw [hrewrites]
  refine ⟨Web.agreeing_rewrites _, hlogged.log, ?_⟩
  have hrecords := (List.forall₂_and_left _ _).mpr ⟨fun _ hupload => hupload, hlogged.records⟩
  refine hrecords.imp fun upload action ⟨hupload, hrecord⟩ => ?_
  have hpart : ∀ raw ∈ [upload.podcast, upload.episode],
      raw ∈ uploads.flatMap fun upload => [upload.podcast, upload.episode] :=
    fun raw hraw => List.mem_flatMap.mpr ⟨upload, hupload, hraw⟩
  obtain ⟨podcast, hpodcast, hid, _, hurl⟩ := hrecord.podcast
  obtain ⟨episode, hepisode, hepisodeId, _, hepisodeUrl⟩ := hrecord.episode
  refine ⟨⟨podcast, hpodcast, hid, ?_⟩, ⟨episode, hepisode, hepisodeId, ?_⟩⟩
  · rw [Web.adopt_eq (hpart _ List.mem_cons_self), hurl, Option.getD_some]
  · rw [Web.adopt_eq (hpart _ (List.mem_cons_of_mem _ List.mem_cons_self)), hepisodeUrl,
      Option.getD_some]

/-- The notes bring a client in line. Canonical forms that are gathered one after the other with
notes on the way are the set of the canonical forms of the list, and the notes are added behind, in
the order of the list: one on each text that differs from its canonical form or has none. When an
upload to a reachable store succeeds, no two of its notes disagree about a text. The client that
follows them has, after a replacement, just the addresses that the user is subscribed to; after a
change, those that were added and removed; and after a batch of actions, those of the podcasts and
the episodes of the stored actions. -/
theorem rewrites_align :
    (∀ raws noted, Web.canonicalAllNoting raws noted =
      (Web.canonicalAll raws, noted ++ Web.rewrites raws)) ∧
    (∀ raws, (Web.canonicalAll raws).Pairwise (· < ·) ∧
      (∀ url, url ∈ Web.canonicalAll raws ↔ ∃ raw ∈ raws, Web.canonical? raw = some url) ∧
      Web.rewrites raws =
        (raws.filter fun raw => decide (Web.canonical? raw ≠ some raw)).map fun raw =>
          ⟨raw, (Web.canonical? raw).getD ""⟩) ∧
    ∀ store : Store, store.Reachable → ∀ user ∈ store.users.entries,
      (∀ device timestamp raws next update,
        store.replaceSubscriptions user.row.name device timestamp raws = .ok (next, update) →
          Web.Agreeing update.rewrites ∧
            next.subscribed user.id = {url | url ∈ Web.adopted update.rewrites raws}) ∧
      (∀ device timestamp add remove next update,
        store.changeSubscriptions user.row.name device timestamp add remove = .ok (next, update) →
          let added := {url | url ∈ Web.adopted update.rewrites add}
          let removed := {url | url ∈ Web.adopted update.rewrites remove}
          Web.Agreeing update.rewrites ∧ Disjoint added removed ∧
            next.subscribed user.id = (store.subscribed user.id ∪ added) \ removed ∧
            addresses update.subscribed = added \ store.subscribed user.id ∧
            addresses update.unsubscribed = removed ∩ store.subscribed user.id) ∧
      ∀ uploads next added, store.addActions user.row.name uploads = .ok (next, added) →
        Web.Agreeing added.rewrites ∧
          next.actions.entries = store.actions.entries ++ added.actions ∧
          List.Forall₂ (fun upload action => next.HasAddresses action.row
            (Web.adopt added.rewrites upload.podcast) (Web.adopt added.rewrites upload.episode))
            uploads added.actions := by
  refine ⟨Web.canonical_all_noting_eq, fun raws => ⟨Web.ascending_canonical_all raws,
    fun url => Web.mem_canonical_all, Web.rewrites_eq raws⟩, fun store hreachable user hmem => ?_⟩
  have hconsistent := hreachable.consistent
  exact ⟨fun _ _ _ _ _ => hconsistent.replacement_adopted hmem,
    fun _ _ _ _ _ _ => hconsistent.change_adopted hmem,
    fun _ _ _ => hconsistent.batch_adopted hmem⟩

/-- Texts that repeat, one in canonical form and one that is dropped, as they are uploaded in a list,
in a change and in an action. -/
theorem rewrites_of_sloppy_texts :
    let store := (Store.empty.run twoSubscriptions).1
    let feed := "http://b.example/feed"
    let raws := ["B.example/feed", "ftp://b.example/feed", feed, "B.example/feed"]
    let noted : List Web.Rewrite :=
      [⟨"B.example/feed", feed⟩, ⟨"ftp://b.example/feed", ""⟩, ⟨"B.example/feed", feed⟩]
    let upload : ActionUpload :=
      ⟨"new", none, "B.example/1", none, "B.example/feed", none, none, .ofUnix 2000, none⟩
    Web.rewrites raws = noted ∧ Web.adopted noted raws = [feed, feed, feed] ∧
      (∃ next update,
        store.replaceSubscriptions "ann" "tablet" (.ofUnix 2000) raws = .ok (next, update) ∧
          update.rewrites = noted ∧ next.subscribed 1 = {feed}) ∧
      (∃ next update,
        store.changeSubscriptions "ann" "tablet" (.ofUnix 2000) raws ["A.example/feed"] =
            .ok (next, update) ∧
          update.rewrites = noted ++ [⟨"A.example/feed", "http://a.example/feed"⟩] ∧
          addresses update.subscribed = {feed} ∧
          addresses update.unsubscribed = {"http://a.example/feed"}) ∧
      ∃ next action, store.addActions "ann" [upload] =
          .ok (next, ⟨[action], [⟨"B.example/feed", feed⟩, ⟨"B.example/1", "http://b.example/1"⟩]⟩) ∧
        next.HasAddresses action.row feed "http://b.example/1" := by
  intro store feed raws noted upload
  let user : Entry User := ⟨1, "ann", false, 10⟩
  have hmem : user ∈ store.users.entries := by decide +kernel
  have hload : store.loadUser user.row.name = .ok user := by decide +kernel
  have hnoted : Web.rewrites raws = noted := by decide +kernel
  have hadopted : Web.adopted noted raws = [feed, feed, feed] := by decide +kernel
  have hfeed : {url | url ∈ [feed, feed, feed]} = {feed} := by
    ext url
    simp
  obtain ⟨_, _, haligned⟩ := rewrites_align
  obtain ⟨hreplaced, hchanged, hstored⟩ :=
    haligned store (Reachable.empty.run twoSubscriptions) user hmem
  refine ⟨hnoted, hadopted, ?_, ?_, ?_⟩
  · obtain ⟨next, update, hreplace, hrewrites⟩ : ∃ next update,
        store.replaceSubscriptions "ann" "tablet" (.ofUnix 2000) raws = .ok (next, update) ∧
          update.rewrites = noted :=
      ⟨_, _, (replace_subscriptions_iff hload).mpr
        ⟨by decide +kernel, .inl (by decide), rfl, rfl⟩, hnoted⟩
    refine ⟨next, update, hreplace, hrewrites, ?_⟩
    obtain ⟨_, hsubscribed⟩ := hreplaced "tablet" (.ofUnix 2000) raws next update hreplace
    rw [hsubscribed, hrewrites, hadopted, hfeed]
  · have hdisjoint : Disjoint (requested raws) (requested ["A.example/feed"]) := by
      simp only [disjoint_iff, List.contains_iff_mem]
      decide +kernel
    obtain ⟨next, update, hchange, hrewrites⟩ : ∃ next update,
        store.changeSubscriptions "ann" "tablet" (.ofUnix 2000) raws ["A.example/feed"] =
            .ok (next, update) ∧
          update.rewrites = noted ++ [⟨"A.example/feed", "http://a.example/feed"⟩] :=
      ⟨_, _, (change_subscriptions_iff hload).mpr
        ⟨by decide +kernel, hdisjoint, .inl (by decide), rfl, rfl⟩, by decide +kernel⟩
    refine ⟨next, update, hchange, hrewrites, ?_⟩
    obtain ⟨_, _, _, hadded, hremoved⟩ := hchanged "tablet" (.ofUnix 2000) raws _ next update hchange
    have hnew : feed ∉ store.subscribed 1 := by
      change ¬ ∃ podcast ∈ store.podcasts.entries, _
      decide +kernel
    have hold : "http://a.example/feed" ∈ store.subscribed 1 := by
      change ∃ podcast ∈ store.podcasts.entries, _
      decide +kernel
    rw [hadded, hremoved, hrewrites,
      show Web.adopted _ raws = [feed, feed, feed] by decide +kernel,
      show Web.adopted _ ["A.example/feed"] = ["http://a.example/feed"] by decide +kernel, hfeed]
    refine ⟨sdiff_eq_left.mpr (Set.disjoint_singleton_left.mpr hnew), ?_⟩
    refine (Set.inter_eq_left.mpr fun url hurl => ?_).trans (Set.ext fun url => List.mem_singleton)
    rwa [List.mem_singleton.mp hurl]
  · obtain ⟨next, action, hadd⟩ : ∃ next action, store.addActions "ann" [upload] =
        .ok (next, ⟨[action],
          [⟨"B.example/feed", feed⟩, ⟨"B.example/1", "http://b.example/1"⟩]⟩) :=
      ⟨((store.addActions "ann" [upload]).toOption.getD (store, ⟨[], []⟩)).1,
        ⟨1, .new, none, 3, 1, .ofUnix 2000, none, none, none⟩, by decide +kernel⟩
    refine ⟨next, action, hadd, ?_⟩
    obtain ⟨_, _, haddresses⟩ := hstored [upload] next _ hadd
    rw [List.forall₂_cons] at haddresses
    exact haddresses.1

end Store

end PodcastLedger
