import PodcastLedger.Proofs.Listing.Order
import PodcastLedger.Proofs.Uploads.Cataloguing
import PodcastLedger.Session

/-!
# What a listing selects

`Store.listing_exact` says what a query for episode actions answers: of the whole log of the user the
views that the query selects, if wanted only the last of each episode, in the order and up to the
number asked for. The statement holds for a list that comes ordered and for one that is aggregated
and sorted afterwards.
-/

namespace PodcastLedger

namespace ActionQuery

/-- The query asks for the view: it is not from the device to leave out, it is of the podcast if one
is given, and it is after the bound. -/
def selects (query : ActionQuery) (view : ActionView) : Bool :=
  query.device.all (fun name => view.device != some name) &&
    query.podcast.all (fun raw => Web.canonical? raw == some view.podcast) &&
    Store.isAfter query.since view.timestamp

/-- The first views up to the limit. A limit below zero is zero. -/
def cut (query : ActionQuery) (views : List ActionView) : List ActionView :=
  match query.limit with
  | none => views
  | some limit => views.take limit.toNat

/-- What the query asks for of a log in ascending order. -/
def select (query : ActionQuery) (log : List ActionView) : List ActionView :=
  let found := log.filter query.selects
  let kept := if query.aggregated then ActionView.lastOfEpisodes found else found
  query.cut
    (match query.order with
    | .ascending => kept
    | .descending => kept.reverse)

variable {query : ActionQuery} {log listed : List ActionView}

/-- Views that are found, aggregated if the query asks for that, sorted and cut. -/
def arranged (query : ActionQuery) (found : List ActionView) : List ActionView :=
  query.cut
    (ActionView.sort query.order (if query.aggregated then ActionView.latest found else found))

/-- What a query may answer when views are found. A plain query orders the views as it reads them
and cuts them there. An aggregated query reads them in any order into a table of the latest view of
each episode, and sorts and cuts what is in the table, which is walked over in any order. -/
inductive Answers (query : ActionQuery) (found : List ActionView) : List ActionView → Prop where
  | plain {listed : List ActionView} (haggregated : query.aggregated = false)
      (hlisted : listed.Perm found) (horder : ActionView.InOrder query.order listed) :
      Answers query found (query.cut listed)
  | aggregated {listed kept : List ActionView} (haggregated : query.aggregated = true)
      (hlisted : listed.Perm found) (hkept : kept.Perm (ActionView.latest listed)) :
      Answers query found (query.cut (ActionView.sort query.order kept))

variable {query : ActionQuery} {log listed answer : List ActionView}

/-- Nothing is left of no views. -/
theorem arranged_nil : query.arranged [] = [] := by
  have hkept : (if query.aggregated then ActionView.latest [] else []) = [] := by
    split <;> rfl
  have hsorted : ActionView.sort query.order [] = [] :=
    (ActionView.sort_perm query.order []).eq_nil
  unfold arranged cut
  rw [hkept, hsorted]
  split
  · rfl
  · exact List.take_nil

/-- The views that are asked for, in the order asked for, are cut to what the query selects. -/
theorem cut_eq_select (hlog : log.Pairwise ActionView.Before)
    (hperm : listed.Perm
      (if query.aggregated then ActionView.lastOfEpisodes (log.filter query.selects)
        else log.filter query.selects))
    (horder : ActionView.InOrder query.order listed) : query.cut listed = query.select log := by
  have hkept : (if query.aggregated then ActionView.lastOfEpisodes (log.filter query.selects)
      else log.filter query.selects).Pairwise ActionView.Before := by
    split
    · exact (hlog.filter _).filter _
    · exact hlog.filter _
  unfold select
  refine congrArg query.cut ?_
  cases hside : query.order with
  | ascending =>
      rw [hside] at horder
      exact ActionView.eq_of_in_order .ascending horder hkept hperm
  | descending =>
      rw [hside] at horder
      refine ActionView.eq_of_in_order .descending horder ?_
        (hperm.trans (List.reverse_perm _).symm)
      exact List.pairwise_reverse.mpr hkept

/-- Both ways to answer a query select the same views. -/
theorem select_of_answers (hlog : log.Pairwise ActionView.Before)
    (hdistinct : ActionView.Distinct log)
    (hanswer : query.Answers (log.filter query.selects) answer) : answer = query.select log := by
  have hfound := hdistinct.sublist (List.filter_sublist : (log.filter query.selects).Sublist log)
  cases hanswer with
  | plain haggregated hlisted horder =>
      refine cut_eq_select hlog ?_ horder
      rw [haggregated]
      exact hlisted
  | aggregated haggregated hlisted hkept =>
      have hlast := hkept.trans (ActionView.latest_perm hfound hlisted)
      refine cut_eq_select hlog ?_ (ActionView.in_order_sort _ ?_)
      · rw [haggregated]
        exact (ActionView.sort_perm _ _).trans hlast
      · exact (hfound.sublist List.filter_sublist).perm hlast

/-- To arrange the views that are found, in whatever order, is one of the ways to answer. -/
theorem answers_arranged {found : List ActionView} (hdistinct : ActionView.Distinct found)
    (hlisted : listed.Perm found) : query.Answers found (query.arranged listed) := by
  unfold arranged
  cases haggregated : query.aggregated with
  | false =>
      exact .plain haggregated ((ActionView.sort_perm _ _).trans hlisted)
        (ActionView.in_order_sort _ (hdistinct.perm hlisted))
  | true => exact .aggregated haggregated hlisted (List.Perm.refl _)

end ActionQuery

namespace Store

variable {store : Store} {userId : Int} {action : Entry EpisodeAction} {view : ActionView}

/-! ## Views -/

/-- What a view shows of a row of the user. -/
theorem view_eq_some (hview : store.view? userId action = some view) :
    view.id = action.id ∧ view.timestamp = action.row.occurredAt ∧
      view.device = (action.row.deviceId.bind store.devices.get?).map (·.row.name) ∧
      ∃ podcast ∈ store.podcasts.entries, podcast.id = action.row.podcastId ∧
        podcast.row.userId = userId ∧ view.podcast = podcast.row.url := by
  unfold view? at hview
  simp only [bind, Option.bind_eq_some_iff] at hview
  obtain ⟨podcast, hpodcast, episode, _, hview⟩ := hview
  obtain ⟨hmem, hid⟩ := Table.get?_eq_some_iff.mp hpodcast
  split at hview
  · next howner =>
      cases hview
      exact ⟨rfl, rfl, rfl, podcast, hmem, hid, howner, rfl⟩
  · cases hview

/-- Every row of the user has a view. -/
theorem Consistent.view_of_owned (hconsistent : store.Consistent)
    (hmem : action ∈ store.actions.entries) (howned : store.HasPodcast userId action.row.podcastId) :
    ∃ view, store.view? userId action = some view := by
  obtain ⟨ownerId, _, hplaces⟩ := hconsistent.actions_placed action hmem
  obtain ⟨podcast, hpodcast, hid, howner⟩ := howned
  obtain ⟨episode, hepisode, hepisodeId, _⟩ := hplaces.episode
  have hgetPodcast := Table.get?_eq_some_iff.mpr ⟨hpodcast, hid⟩
  have hgetEpisode := Table.get?_eq_some_iff.mpr ⟨hepisode, hepisodeId⟩
  unfold view?
  rw [hgetPodcast, hgetEpisode]
  exact ⟨_, if_pos howner⟩

/-- A view is from the device of a name exactly if its row is. -/
theorem Consistent.view_device_iff (hconsistent : store.Consistent)
    (hmem : action ∈ store.actions.entries) (hview : store.view? userId action = some view)
    {name : String} {device : Entry Device}
    (hfind : store.findDevice? userId name = some device) :
    view.device = some name ↔ action.row.deviceId = some device.id := by
  obtain ⟨_, _, hdevice, podcast, hpodcast, hid, howner, _⟩ := view_eq_some hview
  obtain ⟨hfound, hfoundOwner, hname⟩ := mem_of_find_device hfind
  obtain ⟨ownerId, _, hplaces⟩ := hconsistent.actions_placed action hmem
  have hsame : ownerId = userId := hplaces.podcast.owner_unique ⟨podcast, hpodcast, hid, howner⟩
  cases hdeviceId : action.row.deviceId with
  | none => simp [hdevice, hdeviceId]
  | some deviceId =>
      obtain ⟨other, hother, hotherId, hotherOwner⟩ := hplaces.device deviceId hdeviceId
      have hget := Table.get?_eq_some_iff.mpr ⟨hother, hotherId⟩
      rw [hdevice, hdeviceId, Option.bind_some, hget, Option.map_some, Option.some_inj,
        Option.some_inj, ← hotherId]
      constructor
      · intro hotherName
        rw [hconsistent.devices_unique.eq hother hfound (Prod.ext
          (hotherOwner.trans (hsame.trans hfoundOwner.symm)) (hotherName.trans hname.symm))]
      · intro hsameId
        rw [store.devices.eq_of_id_eq hother hfound hsameId, hname]

/-- A view is of the podcast of an address exactly if its row is. -/
theorem Consistent.view_podcast_iff (hconsistent : store.Consistent)
    (hview : store.view? userId action = some view) {url : String} {podcast : Entry Podcast}
    (hfind : store.findPodcast? userId url = some podcast) :
    url = view.podcast ↔ action.row.podcastId = podcast.id := by
  obtain ⟨_, _, _, other, hother, hid, howner, hurl⟩ := view_eq_some hview
  obtain ⟨hfound, hfoundOwner, hfoundUrl⟩ := mem_of_find_podcast hfind
  rw [hurl, ← hid, ← hfoundUrl]
  constructor
  · intro hsame
    rw [hconsistent.podcast_eq hother hfound howner hfoundOwner hsame.symm]
  · intro hsame
    rw [store.podcasts.eq_of_id_eq hother hfound hsame]

/-- No two views have one id. -/
theorem distinct_views (condition : EpisodeAction → Bool) :
    ActionView.Distinct (store.views userId condition) := by
  refine List.pairwise_map.mpr ?_
  unfold views
  refine List.pairwise_filterMap.mpr
    ((store.actions.ascending.sublist List.filter_sublist).imp ?_)
  intro first second hlt view hview other hother
  rw [(view_eq_some hview).1, (view_eq_some hother).1]
  exact Int.ne_of_lt hlt

/-- The rows of the user are the ones that have views. -/
theorem Consistent.mem_views_id_iff (hconsistent : store.Consistent) {id : Int} :
    (∃ view ∈ store.views userId fun _ => true, view.id = id) ↔
      ∃ action ∈ store.actions.entries,
        action.id = id ∧ store.HasPodcast userId action.row.podcastId := by
  unfold views
  rw [List.filter_true]
  simp only [List.mem_filterMap]
  constructor
  · rintro ⟨view, ⟨action, hmem, hview⟩, rfl⟩
    obtain ⟨hid, _, _, podcast, hpodcast, hpodcastId, howner, _⟩ := view_eq_some hview
    exact ⟨action, hmem, hid.symm, podcast, hpodcast, hpodcastId, howner⟩
  · rintro ⟨action, hmem, rfl, howned⟩
    obtain ⟨view, hview⟩ := hconsistent.view_of_owned hmem howned
    exact ⟨view, ⟨action, hmem, hview⟩, (view_eq_some hview).1⟩

/-- To select rows is to select views if the conditions agree. -/
theorem views_eq_filter {condition : EpisodeAction → Bool} {selects : ActionView → Bool}
    (hsame : ∀ action ∈ store.actions.entries, ∀ view, store.view? userId action = some view →
      condition action.row = selects view) :
    store.views userId condition = (store.views userId fun _ => true).filter selects := by
  unfold views
  rw [List.filter_true, List.filter_filterMap, List.filterMap_filter]
  refine List.filterMap_congr fun action hmem => ?_
  cases hview : store.view? userId action with
  | none => split <;> rfl
  | some view =>
      rw [hsame action hmem view hview]
      cases hselects : selects view <;> simp [hselects, Option.filter]

/-! ## Listings -/

variable {query : ActionQuery} {user : Entry User}

/-- The device to leave out is found if its name is known. -/
theorem query_device_of_known (hbindable : ∀ name ∈ query.device, IsBindable name)
    (hknown : ∀ name ∈ query.device, (store.findDevice? userId name).isSome) :
    ∃ device, store.queryDevice userId query.device = .ok device ∧
      query.device.map (store.findDevice? userId) = device.map some := by
  cases hdevice : query.device with
  | none => exact ⟨none, rfl, rfl⟩
  | some name =>
      obtain ⟨device, hfind⟩ := Option.isSome_iff_exists.mp (hknown name hdevice)
      refine ⟨some device, ?_, by rw [Option.map_some, hfind, Option.map_some]⟩
      unfold queryDevice loadDevice selectDevice
      simp only [require_of (hbindable name hdevice), hfind, bind, Except.bind]

/-- The rows that satisfy the conditions of the query have the views that it selects. -/
theorem Consistent.views_eq_selected (hconsistent : store.Consistent)
    {device : Option (Entry Device)} {podcast : Option (Entry Podcast)}
    (hdevice : query.device.map (store.findDevice? userId) = device.map some)
    (hpodcast : query.podcast.map (fun raw =>
      (Web.canonical? raw).bind (store.findPodcast? userId)) = podcast.map some) :
    (store.views userId fun action =>
        device.all (fun device => action.deviceId != some device.id) &&
          podcast.all (fun podcast => action.podcastId == podcast.id) &&
          isAfter query.since action.occurredAt) =
      (store.views userId fun _ => true).filter query.selects := by
  refine views_eq_filter fun action hmem view hview => ?_
  have hsameDevice : (device.all fun device => action.row.deviceId != some device.id) =
      query.device.all fun name => view.device != some name := by
    cases hquery : query.device with
    | none =>
        rw [hquery, Option.map_none, eq_comm, Option.map_eq_none_iff] at hdevice
        rw [hdevice]
        rfl
    | some name =>
        rw [hquery, Option.map_some, eq_comm, Option.map_eq_some_iff] at hdevice
        obtain ⟨found, rfl, hfind⟩ := hdevice
        have hiff := hconsistent.view_device_iff hmem hview hfind.symm
        rw [Option.all_some, Option.all_some, Bool.eq_iff_iff, bne_iff_ne, bne_iff_ne, Ne, Ne, hiff]
  have hsamePodcast : (podcast.all fun podcast => action.row.podcastId == podcast.id) =
      query.podcast.all fun raw => Web.canonical? raw == some view.podcast := by
    cases hquery : query.podcast with
    | none =>
        rw [hquery, Option.map_none, eq_comm, Option.map_eq_none_iff] at hpodcast
        rw [hpodcast]
        rfl
    | some raw =>
        rw [hquery, Option.map_some, eq_comm, Option.map_eq_some_iff] at hpodcast
        obtain ⟨found, rfl, hfind⟩ := hpodcast
        obtain ⟨url, hcanonical, hfind⟩ := Option.bind_eq_some_iff.mp hfind.symm
        have hiff := hconsistent.view_podcast_iff hview hfind
        rw [Option.all_some, Option.all_some, Bool.eq_iff_iff, beq_iff_eq, beq_iff_eq, hcanonical,
          Option.some_inj, hiff]
  rw [hsameDevice, hsamePodcast, ← (view_eq_some hview).2.1]
  rfl

/-- A query for a podcast that the user does not have selects nothing. -/
theorem selected_eq_nil {raw : String} (hquery : query.podcast = some raw)
    (hnone : (Web.canonical? raw).bind (store.findPodcast? userId) = none) :
    (store.views userId fun _ => true).filter query.selects = [] := by
  refine List.filter_eq_nil_iff.mpr fun view hmem hselects => ?_
  simp only [ActionQuery.selects, hquery, Option.all_some, Bool.and_eq_true, beq_iff_eq] at hselects
  rw [hselects.1.2, Option.bind_some, find_podcast_eq_none_iff] at hnone
  obtain ⟨action, _, hview⟩ := List.mem_filterMap.mp hmem
  obtain ⟨_, _, _, podcast, hpodcast, _, howner, hurl⟩ := view_eq_some hview
  exact hnone ⟨podcast, hpodcast, howner, hurl.symm⟩

/-- A listing sorts and cuts what is kept of the views that the query selects. -/
theorem Consistent.list_actions_eq (hconsistent : store.Consistent)
    (hmem : user ∈ store.users.entries) (hbindable : ∀ name ∈ query.device, IsBindable name)
    (hknown : ∀ name ∈ query.device, (store.findDevice? user.id name).isSome)
    (hsince : ∀ bound ∈ query.since, bound.IsStorable) :
    store.listActions user.row.name query =
      .ok (query.arranged ((store.views user.id fun _ => true).filter query.selects)) := by
  obtain ⟨device, hload, hdevice⟩ := query_device_of_known hbindable hknown
  have hbound : requireBound query.since .selectActions = .ok () := require_of hsince
  unfold listActions
  rw [hconsistent.load_user hmem]
  simp only [bind, Except.bind, hload]
  cases hquery : query.podcast with
  | none =>
      have hpodcast : query.podcast.map (fun raw =>
          (Web.canonical? raw).bind (store.findPodcast? user.id)) =
          (none : Option (Entry Podcast)).map some := by
        rw [hquery]
        rfl
      rw [← hconsistent.views_eq_selected hdevice hpodcast]
      simp only [hbound, Option.join_none]
      rfl
  | some raw =>
      simp only [select_raw_podcast_eq, Except.map]
      cases hfind : (Web.canonical? raw).bind (store.findPodcast? user.id) with
      | none =>
          rw [selected_eq_nil hquery hfind, ActionQuery.arranged_nil]
      | some podcast =>
          have hpodcast : query.podcast.map (fun raw =>
              (Web.canonical? raw).bind (store.findPodcast? user.id)) =
              (some podcast).map some := by
            rw [hquery, Option.map_some, hfind, Option.map_some]
          rw [← hconsistent.views_eq_selected hdevice hpodcast]
          simp only [hbound, Option.join_some]
          rfl

/-- A query that leaves out no device and is not bounded by a time is always answered. -/
theorem Consistent.list_actions_unbounded (hconsistent : store.Consistent)
    (hmem : user ∈ store.users.entries) (hdevice : query.device = none)
    (hsince : query.since = none) :
    store.listActions user.row.name query =
      .ok (query.arranged ((store.views user.id fun _ => true).filter query.selects)) := by
  refine hconsistent.list_actions_eq hmem ?_ ?_ ?_
  · rw [hdevice]
    exact fun _ hname => nomatch hname
  · rw [hdevice]
    exact fun _ hname => nomatch hname
  · rw [hsince]
    exact fun _ hbound => nomatch hbound

/-- The whole log is sorted and not cut. -/
theorem Consistent.list_actions_all (hconsistent : store.Consistent)
    (hmem : user ∈ store.users.entries) :
    store.listActions user.row.name .all =
      .ok (ActionView.sort .ascending (store.views user.id fun _ => true)) := by
  have hall : (store.views user.id fun _ => true).filter ActionQuery.all.selects =
      store.views user.id fun _ => true :=
    List.filter_eq_self.mpr fun _ _ => rfl
  rw [hconsistent.list_actions_unbounded hmem rfl rfl, hall]
  rfl

/-- A device to leave out that is not known is a failure. -/
theorem Consistent.list_actions_of_unknown (hconsistent : store.Consistent)
    (hmem : user ∈ store.users.entries) {name : String} (hdevice : query.device = some name)
    (hbindable : IsBindable name) (hnone : store.findDevice? user.id name = none) :
    store.listActions user.row.name query = .error (.unknownDevice name) := by
  unfold listActions
  rw [hconsistent.load_user hmem]
  simp only [bind, Except.bind, queryDevice, hdevice, loadDevice, selectDevice,
    require_of hbindable, hnone]

/-- What a query for episode actions answers. There is one log of the user: what the query for
everything answers, in the order of time and recording, with a view of each row of the user. A query
that leaves out a device which is not known fails. Any other query answers the views of the log that
it selects, and there is no other way to answer it: a plain listing, which is ordered and cut as it
is read, and an aggregated one, which is put together in a table without order, select the same. -/
theorem listing_exact (hreachable : store.Reachable) (hmem : user ∈ store.users.entries)
    (hbindable : ∀ name ∈ query.device, IsBindable name)
    (hsince : ∀ bound ∈ query.since, bound.IsStorable) :
    ∃ log, store.listActions user.row.name .all = .ok log ∧
      log.Pairwise ActionView.Before ∧
      (∀ id, (∃ view ∈ log, view.id = id) ↔ ∃ action ∈ store.actions.entries,
        action.id = id ∧ store.HasPodcast user.id action.row.podcastId) ∧
      (∀ name ∈ query.device, store.findDevice? user.id name = none →
        store.listActions user.row.name query = .error (.unknownDevice name)) ∧
      ((∀ name ∈ query.device, (store.findDevice? user.id name).isSome) →
        store.listActions user.row.name query = .ok (query.select log)) ∧
      ∀ answer, query.Answers (log.filter query.selects) answer ↔ answer = query.select log := by
  have hconsistent := hreachable.consistent
  have hdistinct : ActionView.Distinct (store.views user.id fun _ => true) := distinct_views _
  have hperm := ActionView.sort_perm .ascending (store.views user.id fun _ => true)
  have hlog := ActionView.in_order_sort .ascending hdistinct
  -- To list the views as they were found is one of the ways to answer from the log.
  have hanswers : query.Answers
      ((ActionView.sort .ascending (store.views user.id fun _ => true)).filter query.selects)
      (query.arranged ((store.views user.id fun _ => true).filter query.selects)) :=
    ActionQuery.answers_arranged ((hdistinct.perm hperm).sublist List.filter_sublist)
      (hperm.symm.filter _)
  have hselect := ActionQuery.select_of_answers hlog (hdistinct.perm hperm) hanswers
  refine ⟨ActionView.sort .ascending (store.views user.id fun _ => true), ?_, hlog, fun id => ?_,
    fun name hname hnone => ?_, fun hknown => ?_, fun answer => ⟨?_, ?_⟩⟩
  · exact hconsistent.list_actions_all hmem
  · simp only [hperm.mem_iff]
    exact hconsistent.mem_views_id_iff
  · exact hconsistent.list_actions_of_unknown hmem hname (hbindable name hname) hnone
  · rw [hconsistent.list_actions_eq hmem hbindable hknown hsince, hselect]
  · exact ActionQuery.select_of_answers hlog (hdistinct.perm hperm)
  · rintro rfl
    rw [← hselect]
    exact hanswers

/-- A user acts on an episode with two devices and once without. -/
def actionsOfDevices : List (String × Request) :=
  let upload := fun device seconds => ActionUpload.mk "download" device "http://a.example/1" none
    "http://a.example/feed" none none (.ofUnix seconds) none
  [("ann", .createUser "long enough" 10),
    ("ann", .addActions [upload (some "phone") 2000, upload none 1000, upload (some "tablet") 1000])]

/-- Of the actions that are not from the phone the last one is wanted. It was recorded after another
one of the same time. -/
theorem listing_without_phone :
    let store := (Store.empty.run actionsOfDevices).1
    let query : ActionQuery := ⟨true, some "phone", some 5, .descending,
      some "HTTP://A.example/feed#top", some (.ofUnix 500)⟩
    ∃ log, store.listActions "ann" .all = .ok log ∧ log.map ActionView.id = [2, 3, 1] ∧
      store.listActions "ann" query = .ok (query.select log) ∧
      (query.select log).map ActionView.id = [3] ∧
      ∀ answer, query.Answers (log.filter query.selects) answer ↔ answer = query.select log := by
  intro store query
  have hreachable := Reachable.empty.run actionsOfDevices
  have hmem : (⟨1, "ann", false, 10⟩ : Entry User) ∈ store.users.entries := by decide +kernel
  let view := fun id device seconds => ActionView.mk id 1 "download" device "http://a.example/1" none
    "http://a.example/feed" none none (.ofUnix seconds) none
  have hviews : (store.views 1 fun _ => true) =
      [view 1 (some "phone") 2000, view 2 none 1000, view 3 (some "tablet") 1000] := by
    decide +kernel
  have hsort : ActionView.sort .ascending (store.views 1 fun _ => true) =
      [view 2 none 1000, view 3 (some "tablet") 1000, view 1 (some "phone") 2000] := by
    refine ActionView.eq_of_in_order .ascending (ActionView.in_order_sort _ (distinct_views _)) ?_
      ((ActionView.sort_perm _ _).trans ?_)
    · rw [ActionView.InOrder]
      decide +kernel
    · rw [hviews]
      decide +kernel
  have hbindable : ∀ name ∈ query.device, IsBindable name := by decide
  have hsince : ∀ bound ∈ query.since, bound.IsStorable := by decide
  obtain ⟨log, hall, _, _, _, hknown, hanswers⟩ :=
    listing_exact hreachable hmem hbindable hsince
  have hlog := hall.symm.trans (hreachable.consistent.list_actions_all hmem)
  rw [Except.ok.injEq, hsort] at hlog
  refine ⟨log, hall, ?_, hknown (by decide +kernel), ?_, hanswers⟩
  · rw [hlog]
    rfl
  · rw [hlog]
    decide +kernel

end Store

end PodcastLedger
