import PodcastLedger.Proofs.Log.Placing
import PodcastLedger.Proofs.Log.Remembering

/-!
# Logged actions

What storing a batch of actions does, told by what the client sent. `Store.Logged` accounts for
every row of the store afterwards: the log has one more row for each action, in their order, and
each refers to what its action names in whatever spelling; what was missing is there once; an
episode keeps its identifier or takes the first one given. `Store.add_actions_exact` derives it for
every batch that is stored.
-/

namespace PodcastLedger

variable {upload : ActionUpload} {uploads : List ActionUpload} {action : ValidAction}
  {actions : List ValidAction}

/-! ## Valid uploads -/

/-- A valid action is what an upload says, with its kind read and its addresses in canonical
form. -/
structure ActionUpload.Reads (upload : ActionUpload) (action : ValidAction) : Prop where
  kind : ActionKind.ofText? upload.action = some action.kind
  podcast : Web.canonical? upload.podcast = some action.podcast
  episode : Web.canonical? upload.episode = some action.episode
  others : action =
    ⟨action.kind, upload.device, action.episode, upload.guid, action.podcast, upload.position,
      upload.started, upload.timestamp, upload.total⟩

/-- An address is read as its canonical form. -/
theorem ActionUpload.read_url_eq {raw url : String} {violation : Violation}
    (hread : ActionUpload.readUrl raw violation = .ok url) : Web.canonical? raw = some url := by
  unfold ActionUpload.readUrl at hread
  split at hread
  · next hcanonical =>
      cases hread
      exact hcanonical
  · cases hread

/-- An upload that is valid is read. -/
theorem ActionUpload.reads_of_validate (hvalidate : upload.validate = .ok action) :
    upload.Reads action := by
  simp only [ActionUpload.validate, bind_eq_ok_iff] at hvalidate
  obtain ⟨kind, hkind, _, _, _, _, _, _, _, _, podcast, hpodcast, episode, hepisode, haction⟩ :=
    hvalidate
  cases haction
  unfold ActionUpload.readKind at hkind
  split at hkind
  · next hread =>
      cases hkind
      exact ⟨hread, ActionUpload.read_url_eq hpodcast, ActionUpload.read_url_eq hepisode, rfl⟩
  · cases hkind

/-- Uploads that are valid are read one by one. -/
theorem ActionUpload.reads_all (hvalidate : uploads.mapM ActionUpload.validate = .ok actions) :
    List.Forall₂ ActionUpload.Reads uploads actions := by
  induction uploads generalizing actions with
  | nil =>
      cases hvalidate
      exact .nil
  | cons upload uploads ih =>
      rw [List.mapM_cons] at hvalidate
      simp only [bind_eq_ok_iff] at hvalidate
      obtain ⟨action, hfirst, rest, hrest, hactions⟩ := hvalidate
      cases hactions
      exact .cons (ActionUpload.reads_of_validate hfirst) (ih hrest)

/-! ## What is logged -/

/-- The upload is about the episode of a podcast of the user and an address. -/
def ActionUpload.IsAbout (upload : ActionUpload) (store : Store) (userId : Int)
    (key : Int × String) : Prop :=
  Web.canonical? upload.episode = some key.2 ∧
    ∃ podcast ∈ store.podcasts.entries, podcast.id = key.1 ∧ podcast.row.userId = userId ∧
      Web.canonical? upload.podcast = some podcast.row.url

/-- What an upload is about is found by comparing addresses. -/
instance (upload : ActionUpload) (store : Store) (userId : Int) (key : Int × String) :
    Decidable (upload.IsAbout store userId key) :=
  inferInstanceAs (Decidable (_ ∧ _))

namespace Store

/-- The first identifier that uploads give for an episode. -/
def uploadedGuid (store : Store) (userId : Int) (uploads : List ActionUpload)
    (key : Int × String) : Option String :=
  uploads.findSome? fun upload => if upload.IsAbout store userId key then upload.guid else none

/-- A row of the log records an upload: it has what the upload says, and refers to the device, the
podcast and the episode that the upload names. -/
structure Records (store : Store) (userId : Int) (upload : ActionUpload) (row : EpisodeAction) :
    Prop where
  kind : ActionKind.ofText? upload.action = some row.kind
  occurredAt : row.occurredAt = upload.timestamp.stored
  measures : row.measures = [upload.started, upload.position, upload.total]
  device : Option.Rel (store.NamesDevice userId) upload.device row.deviceId
  podcast : ∃ podcast ∈ store.podcasts.entries, podcast.id = row.podcastId ∧
    podcast.row.userId = userId ∧ Web.canonical? upload.podcast = some podcast.row.url
  episode : ∃ episode ∈ store.episodes.entries, episode.id = row.episodeId ∧
    episode.row.podcastId = row.podcastId ∧ Web.canonical? upload.episode = some episode.row.url

/-- What storing a batch leaves. The log is as before with new rows behind, which record the uploads
in their order; the devices, podcasts and episodes that were missing are there, once each; every
episode has its identifier or takes the first one given for it, and nothing else changes. -/
structure Logged (store next : Store) (userId : Int) (uploads : List ActionUpload)
    (logged : List (Entry EpisodeAction)) : Prop where
  log : next.actions.entries = store.actions.entries ++ logged
  later : ∀ old ∈ store.actions.entries, ∀ new ∈ logged, old.id < new.id
  ascending : logged.Pairwise fun first second => first.id < second.id
  records : List.Forall₂ (fun upload action => next.Records userId upload action.row) uploads logged
  devices : Table.Gains Device.key Device.fresh
    (fun key => key.1 = userId ∧ ∃ upload ∈ uploads, upload.device = some key.2)
    store.devices.entries next.devices.entries
  podcasts : Table.Gains Podcast.key (fun key => .fresh key.1 key.2)
    (fun key => key.1 = userId ∧ ∃ upload ∈ uploads, Web.canonical? upload.podcast = some key.2)
    store.podcasts.entries next.podcasts.entries
  episodes : ∃ all,
    Table.Gains Episode.key Episode.fresh
      (fun key => ∃ upload ∈ uploads, upload.IsAbout next userId key) store.episodes.entries all ∧
    next.episodes.entries = all.map fun episode =>
      ⟨episode.id, episode.row.identify (next.uploadedGuid userId uploads episode.row.key)⟩
  users : next.users = store.users
  settings : next.settings = store.settings

variable {store next : Store} {userId : Int} {row : EpisodeAction} {rows : List EpisodeAction}

/-! ## The log -/

/-- The row as it is kept in the log: with its time as the store keeps it. -/
def keptAction (row : EpisodeAction) : EpisodeAction :=
  { row with occurredAt := row.occurredAt.stored }

/-- Appended rows are behind the log as it was, in their order. -/
theorem append_actions_spec (store : Store) (rows : List EpisodeAction) :
    (store.appendActions rows).1 = { store with actions := (store.appendActions rows).1.actions } ∧
      (store.appendActions rows).1.actions.entries =
        store.actions.entries ++ (store.appendActions rows).2 ∧
      (store.appendActions rows).2.map (·.row) = rows.map keptAction := by
  induction rows generalizing store with
  | nil => exact ⟨rfl, (List.append_nil _).symm, rfl⟩
  | cons row rows ih =>
      obtain ⟨hothers, hlog, hrows⟩ :=
        ih { store with actions := store.actions.insert (keptAction row) }
      refine ⟨hothers, ?_, congrArg (keptAction row :: ·) hrows⟩
      refine hlog.trans ?_
      rw [Table.entries_insert, List.append_assoc]
      rfl

/-! ## From placed actions to uploads -/

/-- A row that stands for what was read of an upload records it. -/
theorem Stands.records (hstands : next.Stands userId action row) (hreads : upload.Reads action) :
    next.Records userId upload (keptAction row) := by
  obtain ⟨podcast, hpodcast, hid, hkey⟩ := hstands.podcast
  obtain ⟨episode, hepisode, hepisodeId, hepisodeKey⟩ := hstands.episode
  have hothers := hreads.others
  refine ⟨?_, ?_, ?_, ?_, ⟨podcast, hpodcast, hid, congrArg Prod.fst hkey, ?_⟩,
    ⟨episode, hepisode, hepisodeId, congrArg Prod.fst hepisodeKey, ?_⟩⟩
  · rw [hreads.kind]
    exact congrArg some hstands.kind.symm
  · rw [hothers] at hstands
    exact congrArg Instant.stored hstands.occurredAt
  · rw [hothers] at hstands
    exact hstands.measures
  · rw [hothers] at hstands
    exact hstands.device
  · rw [hreads.podcast]
    exact congrArg (some ·.2) hkey.symm
  · rw [hreads.episode]
    exact congrArg (some ·.2) hepisodeKey.symm

/-- An upload is about an episode exactly if what its row mentions is the episode. -/
theorem Stands.mentions_iff (hconsistent : next.Consistent)
    (hstands : next.Stands userId action row) (hreads : upload.Reads action) {key : Int × String} :
    (action.mentions row).1 = key ↔ upload.IsAbout next userId key := by
  obtain ⟨podcast, hmem, hid, hpodcast⟩ := hstands.podcast
  unfold ActionUpload.IsAbout
  rw [hreads.episode, hreads.podcast]
  constructor
  · rintro rfl
    exact ⟨rfl, podcast, hmem, hid, congrArg Prod.fst hpodcast, congrArg (some ·.2) hpodcast.symm⟩
  · rintro ⟨hurl, other, hother, hotherId, howner, hotherUrl⟩
    have hsame : podcast.row.key = other.row.key :=
      hpodcast.trans (Prod.ext howner.symm (Option.some.inj hotherUrl))
    rw [hconsistent.podcasts_unique.eq hmem hother hsame] at hid
    exact Prod.ext (hid.symm.trans hotherId) (Option.some.inj hurl)

/-- Relations along two lists and along the second and a third one make one along the first and the
third. -/
theorem forall₂_trans {First Second Third : Type} {related : First → Second → Prop}
    {related' : Second → Third → Prop} {composed : First → Third → Prop} {first : List First}
    {second : List Second} {third : List Third} (hfirst : List.Forall₂ related first second)
    (hsecond : List.Forall₂ related' second third)
    (himp : ∀ a b c, related a b → related' b c → composed a c) :
    List.Forall₂ composed first third := by
  induction hfirst generalizing third with
  | nil =>
      cases hsecond
      exact .nil
  | cons hhead _ ih =>
      cases hsecond with
      | cons hhead' hrest => exact .cons (himp _ _ _ hhead hhead') (ih hrest)

/-- One of a list has a property if and only if one of a related list has a property that related
things share. -/
theorem exists_mem_iff {First Second : Type} {related : First → Second → Prop}
    {holds : First → Prop} {holds' : Second → Prop} {first : List First} {second : List Second}
    (hrelated : List.Forall₂ related first second)
    (hsame : ∀ a b, related a b → (holds a ↔ holds' b)) :
    (∃ a ∈ first, holds a) ↔ ∃ b ∈ second, holds' b := by
  induction hrelated with
  | nil => simp
  | cons hhead _ ih => simp only [List.exists_mem_cons_iff, hsame _ _ hhead, ih]

/-- Mentioned episodes are those that uploads are about, and the identifiers given for them are
those that uploads give. -/
theorem mentions_eq (hconsistent : next.Consistent)
    (hreads : List.Forall₂ ActionUpload.Reads uploads actions)
    (hstands : List.Forall₂ (next.Stands userId) actions rows) (key : Int × String) :
    ((∃ mention ∈ List.zipWith ValidAction.mentions actions rows, mention.1 = key) ↔
        ∃ upload ∈ uploads, upload.IsAbout next userId key) ∧
      givenGuid (List.zipWith ValidAction.mentions actions rows) key =
        next.uploadedGuid userId uploads key := by
  induction hreads generalizing rows with
  | nil => exact ⟨by simp, rfl⟩
  | @cons upload action _ _ hupload _ ih =>
      cases hstands with
      | @cons _ row _ _ haction hrest =>
          obtain ⟨hwanted, hguid⟩ := ih hrest
          have habout : (action.mentions row).1 = key ↔ upload.IsAbout next userId key :=
            haction.mentions_iff hconsistent hupload
          have hgiven : (action.mentions row).2 = upload.guid := by
            rw [hupload.others]
            rfl
          rw [List.zipWith_cons_cons]
          refine ⟨?_, ?_⟩
          · simp only [List.exists_mem_cons_iff, habout, hwanted]
          · unfold givenGuid uploadedGuid at hguid ⊢
            rw [List.findSome?_cons, List.findSome?_cons, hguid, hgiven]
            simp only [habout]

/-- What is placed for uploads and logged then is logged for the uploads. -/
theorem Placed.logged {middle : Store} (hplaced : store.Placed middle userId actions rows)
    (hconsistent : middle.Consistent) (hreads : List.Forall₂ ActionUpload.Reads uploads actions) :
    store.Logged (middle.appendActions rows).1 userId uploads (middle.appendActions rows).2 := by
  obtain ⟨hothers, hlog, hrows⟩ := middle.append_actions_spec rows
  generalize (middle.appendActions rows).1 = last at hothers hlog
  generalize (middle.appendActions rows).2 = logged at hlog hrows
  obtain ⟨table, rfl⟩ : ∃ table, last = { middle with actions := table } := ⟨_, hothers⟩
  have hactions : middle.actions = store.actions := by rw [hplaced.others]
  rw [hactions] at hlog
  have hascending := table.ascending
  rw [show table.entries = _ from hlog, List.pairwise_append] at hascending
  have hmentions := mentions_eq hconsistent hreads hplaced.stands
  refine ⟨hlog, hascending.2.2, hascending.2.1, ?_, ?_, ?_, ?_, ?_, ?_⟩
  · have hrecords : List.Forall₂ (middle.Records userId) uploads (rows.map keptAction) :=
      List.forall₂_map_right_iff.mpr
        (forall₂_trans hreads hplaced.stands fun _ _ _ hread hstands => hstands.records hread)
    rw [← hrows] at hrecords
    refine (List.forall₂_map_right_iff.mp hrecords).imp fun upload action hrecord => ?_
    -- The log has no part in what a row refers to.
    exact { hrecord with }
  · refine hplaced.devices.congr fun key => ?_
    have hnamed : (∃ upload ∈ uploads, upload.device = some key.2) ↔
        ∃ action ∈ actions, action.device = some key.2 :=
      exists_mem_iff hreads fun upload action hread => by rw [hread.others]
    rw [hnamed]
    constructor
    · rintro ⟨action, hmem, name, hname, rfl⟩
      exact ⟨rfl, action, hmem, hname⟩
    · rintro ⟨rfl, action, hmem, hname⟩
      exact ⟨action, hmem, key.2, hname, rfl⟩
  · refine hplaced.podcasts.congr fun key => ?_
    have hnamed : (∃ upload ∈ uploads, Web.canonical? upload.podcast = some key.2) ↔
        ∃ action ∈ actions, action.podcast = key.2 :=
      exists_mem_iff hreads fun upload action hread => by rw [hread.podcast, Option.some_inj]
    rw [hnamed]
    constructor
    · rintro ⟨action, hmem, rfl⟩
      exact ⟨rfl, action, hmem, rfl⟩
    · rintro ⟨rfl, action, hmem, hurl⟩
      exact ⟨action, hmem, Prod.ext rfl hurl.symm⟩
  · obtain ⟨all, hgains, hidentified⟩ := hplaced.episodes
    refine ⟨all, hgains.congr fun key => (hmentions key).1, hidentified.trans ?_⟩
    refine List.map_congr_left fun episode _ => ?_
    unfold identified
    rw [(hmentions episode.row.key).2]
    rfl
  · show middle.users = store.users
    rw [hplaced.others]
  · show middle.settings = store.settings
    rw [hplaced.others]

/-- What a batch that is stored for a user leaves. -/
theorem Consistent.logged_actions (hconsistent : store.Consistent) {user : Entry User}
    (hmem : user ∈ store.users.entries) {added : ActionsAdded}
    (hadd : store.addActions user.row.name uploads = .ok (next, added)) :
    store.Logged next user.id uploads added.actions := by
  have huser := Table.has_of_mem hmem
  simp only [addActions, bind_eq_ok_iff, hconsistent.load_user hmem] at hadd
  obtain ⟨actions, hvalidate, _, huserEq, ⟨middle, rows⟩, hplace, ⟨last, logged⟩, hinsert, hadded⟩ :=
    hadd
  cases huserEq
  cases hadded
  simp only [insertActions, bind_eq_ok_iff] at hinsert
  obtain ⟨_, _, hinsert⟩ := hinsert
  have hallowed : ∀ action ∈ actions,
      action.kind.Allows [action.started, action.position, action.total] := by
    intro action haction
    obtain ⟨upload, _, hupload⟩ := validate_all_ok hvalidate action haction
    exact validate_ok hupload
  have hwrites : Writes user.id none store middle := (place_actions_ok hallowed hplace).1.writes
  have hlogged := (hconsistent.placed_actions huser hplace).logged
    (hconsistent.writes huser hwrites) (ActionUpload.reads_all hvalidate)
  rw [Except.ok.inj hinsert] at hlogged
  exact hlogged

/-- A batch that is stored for a user leaves just what it tells of, with memory of what was found
for earlier actions or without. -/
theorem add_actions_exact (hreachable : store.Reachable) {user : Entry User}
    (hmem : user ∈ store.users.entries) {added : ActionsAdded}
    (hadd : store.addActions user.row.name uploads = .ok (next, added)) :
    store.Logged next user.id uploads added.actions ∧
      store.addActionsRemembering user.row.name uploads = .ok (next, added) :=
  ⟨hreachable.consistent.logged_actions hmem hadd,
    (store.add_actions_remembering user.row.name uploads).trans hadd⟩

/-- A user is subscribed to a podcast and acted on an episode of it, which has no identifier yet. -/
def episodeWithoutGuid : List (String × Request) :=
  [("ann", .createUser "long enough" 10),
    ("ann", .replaceSubscriptions "laptop" (.ofUnix 500) ["http://a.example/feed"]),
    ("ann", .addActions [⟨"new", none, "http://a.example/1", none, "http://a.example/feed", none,
      none, .ofUnix 1000, none⟩])]

/-- A batch that repeats things in several spellings and mixes known with new ones. -/
def repeatingUploads : List ActionUpload :=
  [⟨"Play", some "phone", "HTTP://A.example/1", some "one", "a.example/feed", some 5, none,
      .ofUnix 2000, none⟩,
    ⟨"download", some "phone", "http://a.example/2", none, "http://a.example:80/feed#top", none,
      none, .ofUnix 2000, none⟩,
    ⟨"delete", some "laptop", "http://a.example/2", some "two", "http://b.example/feed", none, none,
      .ofUnix 1500, none⟩,
    ⟨"flattr", none, "a.example/2", some "late", "http://a.example/feed", none, none, .ofUnix 1500,
      none⟩]

/-- The known episode takes the identifier that is given first, each new one is added once for its
podcast, and the rows refer to them in the order of the batch. -/
theorem add_actions_repeating :
    let store := (Store.empty.run episodeWithoutGuid).1
    ∃ next added, store.addActions "ann" repeatingUploads = .ok (next, added) ∧
      store.Logged next 1 repeatingUploads added.actions ∧
      next.episodes.entries = [⟨1, 1, "http://a.example/1", some "one"⟩,
        ⟨2, 1, "http://a.example/2", some "late"⟩, ⟨3, 2, "http://a.example/2", some "two"⟩] ∧
      (added.actions.map fun action => (action.row.deviceId, action.row.episodeId)) =
        [(some 2, 1), (some 2, 2), (some 1, 3), (none, 2)] := by
  intro store
  have hmem : (⟨1, "ann", false, 10⟩ : Entry User) ∈ store.users.entries := by decide +kernel
  have hresult : (store.addActions "ann" repeatingUploads).toOption.map (fun result =>
      (result.1.episodes.entries,
        result.2.actions.map fun action => (action.row.deviceId, action.row.episodeId))) =
      some ([⟨1, 1, "http://a.example/1", some "one"⟩, ⟨2, 1, "http://a.example/2", some "late"⟩,
          ⟨3, 2, "http://a.example/2", some "two"⟩],
        [(some 2, 1), (some 2, 2), (some 1, 3), (none, 2)]) := by
    decide +kernel
  cases hadd : store.addActions "ann" repeatingUploads with
  | error failure =>
      rw [hadd] at hresult
      cases hresult
  | ok result =>
      rw [hadd] at hresult
      obtain ⟨hepisodes, hactions⟩ := Prod.mk.inj (Option.some.inj hresult)
      exact ⟨result.1, result.2, rfl,
        (add_actions_exact (Reachable.empty.run episodeWithoutGuid) hmem hadd).1, hepisodes,
        hactions⟩

end Store

end PodcastLedger
