import PodcastLedger.Proofs.Statements.Plain
import PodcastLedger.Proofs.Uploads.Uploaded

/-!
# Batches with memory

A batch of actions tends to repeat its devices and podcasts, so each is looked for only once: its id
is remembered, by its name or its address, for the rest of the batch. By plain statements a batch is
placed so as `Store.placeActions` does it, which looks for everything each time
(`Store.place_remembering`).
-/

namespace PodcastLedger.Store

open RowStatements (plain recallText recall_text_of_some recall_text_of_none)

variable {store next : Store} {userId : Int} {name url : String} {devices podcasts : Memory}

/-! ## What is known -/

/-- The user has a device of the name, which is under the id. -/
def KnowsDevice (store : Store) (userId : Int) (name : String) (id : Int) : Prop :=
  IsName name ∧ store.users.Has userId ∧
    ∃ device, store.findDevice? userId name = some device ∧ device.id = id

/-- The user has a podcast of the address, which is under the id. -/
def KnowsPodcast (store : Store) (userId : Int) (url : String) (id : Int) : Prop :=
  (IsBindable url ∧ IsWebUrl url) ∧ store.users.Has userId ∧
    ∃ podcast, store.findPodcast? userId url = some podcast ∧ podcast.id = id

/-- Everything that is remembered is known. -/
structure Remembers (store : Store) (userId : Int) (devices podcasts : Memory) : Prop where
  devices : ∀ name id, devices.lookup name = some id → store.KnowsDevice userId name id
  podcasts : ∀ url id, podcasts.lookup url = some id → store.KnowsPodcast userId url id

/-- What is known of a store is known of another one. -/
structure KeepsKnown (userId : Int) (store next : Store) : Prop where
  users : next.users = store.users
  devices : ∀ {name device}, store.findDevice? userId name = some device →
    next.findDevice? userId name = some device
  podcasts : ∀ {url podcast}, store.findPodcast? userId url = some podcast →
    next.findPodcast? userId url = some podcast

variable {id : Int}

/-- A device that is known is known still. -/
theorem KnowsDevice.mono (hknows : store.KnowsDevice userId name id)
    (hkeeps : KeepsKnown userId store next) : next.KnowsDevice userId name id := by
  obtain ⟨hname, huser, device, hfind, hid⟩ := hknows
  exact ⟨hname, hkeeps.users ▸ huser, device, hkeeps.devices hfind, hid⟩

/-- A podcast that is known is known still. -/
theorem KnowsPodcast.mono (hknows : store.KnowsPodcast userId url id)
    (hkeeps : KeepsKnown userId store next) : next.KnowsPodcast userId url id := by
  obtain ⟨hurl, huser, podcast, hfind, hid⟩ := hknows
  exact ⟨hurl, hkeeps.users ▸ huser, podcast, hkeeps.podcasts hfind, hid⟩

/-- What is remembered is known still. -/
theorem Remembers.mono (hremembers : store.Remembers userId devices podcasts)
    (hkeeps : KeepsKnown userId store next) : next.Remembers userId devices podcasts where
  devices name id hlookup := (hremembers.devices name id hlookup).mono hkeeps
  podcasts url id hlookup := (hremembers.podcasts url id hlookup).mono hkeeps

/-- Nothing need be remembered. -/
theorem remembers_nothing (store : Store) (userId : Int) : store.Remembers userId [] [] where
  devices _ _ hlookup := by cases hlookup
  podcasts _ _ hlookup := by cases hlookup

/-- A device that is known may be remembered. -/
theorem Remembers.device (hremembers : store.Remembers userId devices podcasts)
    (hknows : store.KnowsDevice userId name id) :
    store.Remembers userId ((name, id) :: devices) podcasts := by
  refine { hremembers with devices := fun other otherId hlookup => ?_ }
  rw [List.lookup_cons] at hlookup
  by_cases hother : other = name
  · subst hother
    rw [beq_self_eq_true] at hlookup
    cases hlookup
    exact hknows
  · rw [beq_eq_false_iff_ne.mpr hother] at hlookup
    exact hremembers.devices other otherId hlookup

/-- A podcast that is known may be remembered. -/
theorem Remembers.podcast (hremembers : store.Remembers userId devices podcasts)
    (hknows : store.KnowsPodcast userId url id) :
    store.Remembers userId devices ((url, id) :: podcasts) := by
  refine { hremembers with podcasts := fun other otherId hlookup => ?_ }
  rw [List.lookup_cons] at hlookup
  by_cases hother : other = url
  · subst hother
    rw [beq_self_eq_true] at hlookup
    cases hlookup
    exact hknows
  · rw [beq_eq_false_iff_ne.mpr hother] at hlookup
    exact hremembers.podcasts other otherId hlookup

/-- The id of a device is that of its registration. -/
theorem plain_device_id (store : Store) (userId : Int) (name : String) :
    (plain.deviceId userId name).whole store =
      store.registerDevice userId name >>= fun reached =>
        .ok (reached.1, reached.2.device.id) :=
  rfl

/-- The id of a podcast is that of the one that is found or added. -/
theorem plain_podcast_id (store : Store) (userId : Int) (url : String) :
    (plain.podcastId userId url).whole store =
      store.insertPodcast userId url >>= fun reached => .ok (reached.1, reached.2.id) :=
  rfl

/-- The id of an episode is that of the one that is found or added. -/
theorem plain_episode_id (store : Store) (podcastId : Int) (url : String) (guid : Option String) :
    (plain.episodeId podcastId url guid).whole store =
      store.insertEpisode podcastId url guid >>= fun reached => .ok (reached.1, reached.2.id) :=
  rfl

/-- To look for a device that is known gives its id and changes nothing. -/
theorem find_device_of_knows (hknows : store.KnowsDevice userId name id) :
    (plain.deviceId userId name).whole store = .ok (store, id) := by
  obtain ⟨hname, huser, device, hfind, rfl⟩ := hknows
  have hvalid : validateName "device" name = .ok () := validateName_eq_ok_iff.mpr hname
  rw [plain_device_id]
  unfold registerDevice insertDevice
  rw [hvalid, require_of ⟨hname.1, hname.bindable, huser⟩, hfind]
  rfl

/-- To look for a podcast that is known gives its id and changes nothing. -/
theorem find_podcast_of_knows (hknows : store.KnowsPodcast userId url id) :
    (plain.podcastId userId url).whole store = .ok (store, id) := by
  obtain ⟨⟨hbindable, hweb⟩, huser, podcast, hfind, rfl⟩ := hknows
  rw [plain_podcast_id]
  unfold insertPodcast
  rw [require_of ⟨hbindable, hweb, huser⟩, hfind]
  rfl

/-- What was looked for among the devices is known then, and what was known is known still. -/
theorem knows_of_find_device (hfind : (plain.deviceId userId name).whole store = .ok (next, id)) :
    next.KnowsDevice userId name id ∧ KeepsKnown userId store next := by
  rw [plain_device_id] at hfind
  obtain ⟨⟨_, registration⟩, hregister, hresult⟩ := bind_eq_ok_iff.mp hfind
  cases hresult
  simp only [registerDevice, insertDevice, bind_eq_ok_iff, require_eq_ok_iff,
    validateName_eq_ok_iff] at hregister
  obtain ⟨_, hname, _, ⟨_, _, huser⟩, hregister⟩ := hregister
  cases hknown : store.findDevice? userId name with
  | some device =>
      rw [hknown] at hregister
      cases hregister
      exact ⟨⟨hname, huser, device, hknown, rfl⟩, rfl, fun h => h, fun h => h⟩
  | none =>
      rw [hknown] at hregister
      cases hregister
      unfold findDevice? at hknown
      refine ⟨⟨hname, huser, _, ?_, rfl⟩, rfl, fun {other device} hother => ?_, fun h => h⟩
      · exact Table.find_insert_new hknown (by simp)
      · unfold findDevice? at hother ⊢
        rw [Table.find_insert, hother, Option.some_or]

/-- What was looked for among the podcasts is known then, and what was known is known still. -/
theorem knows_of_find_podcast (hfind : (plain.podcastId userId url).whole store = .ok (next, id)) :
    next.KnowsPodcast userId url id ∧ KeepsKnown userId store next := by
  obtain ⟨⟨_, podcast⟩, hinsert, hresult⟩ := bind_eq_ok_iff.mp hfind
  cases hresult
  obtain ⟨⟨hbindable, hweb, huser⟩, rfl, hread⟩ := insert_podcast_iff.mp hinsert
  have hnextUser : (store.withPodcast userId url).users.Has userId := by
    rwa [users_with_podcast]
  refine ⟨⟨⟨hbindable, hweb⟩, hnextUser, podcast, hread, rfl⟩, users_with_podcast, ?_, ?_⟩
  · intro name device hdevice
    rw [with_podcast_eq]
    exact hdevice
  · intro other known hknown
    unfold withPodcast
    split
    · exact hknown
    · unfold findPodcast? at hknown ⊢
      rw [Table.find_insert, hknown, Option.some_or]

/-- What was known is known still after an episode was looked for. -/
theorem keeps_known_of_find_episode {podcastId : Int} {guid : Option String}
    (hfind : (plain.episodeId podcastId url guid).whole store = .ok (next, id)) :
    KeepsKnown userId store next := by
  rw [plain_episode_id] at hfind
  obtain ⟨⟨_, episode⟩, hinsert, hresult⟩ := bind_eq_ok_iff.mp hfind
  cases hresult
  simp only [insertEpisode, bind_eq_ok_iff] at hinsert
  obtain ⟨_, _, hinsert⟩ := hinsert
  split at hinsert <;> cases hinsert <;> exact ⟨rfl, fun h => h, fun h => h⟩

/-! ## Batches -/

/-- To recall the device of an action is to place it, and what is remembered then is known. -/
theorem Remembers.recall_device (hremembers : store.Remembers userId devices podcasts)
    (device : Option String) :
    (∃ failure, (plain.recallDevice userId devices device).whole store = .error failure ∧
        store.placeDevice userId device = .error failure) ∨
      ∃ next memory id,
        (plain.recallDevice userId devices device).whole store = .ok (next, memory, id) ∧
          store.placeDevice userId device = .ok (next, id) ∧
          next.Remembers userId memory podcasts := by
  cases device with
  | none => exact .inr ⟨store, devices, none, rfl, rfl, hremembers⟩
  | some name =>
      have hplace : store.placeDevice userId (some name) =
          (plain.deviceId userId name).whole store >>= fun found => .ok (found.1, some found.2) := by
        rw [plain_device_id, bind_assoc]
        rfl
      rw [hplace]
      unfold RowStatements.recallDevice
      dsimp only
      cases hlookup : devices.lookup name with
      | some id =>
          rw [recall_text_of_some hlookup,
            find_device_of_knows (hremembers.devices name id hlookup)]
          exact .inr ⟨store, devices, some id, rfl, rfl, hremembers⟩
      | none =>
          simp only [recall_text_of_none hlookup, Procedure.whole_bind]
          cases hfind : (plain.deviceId userId name).whole store with
          | error failure => exact .inl ⟨failure, rfl, rfl⟩
          | ok result =>
              obtain ⟨hknows, hkeeps⟩ := knows_of_find_device hfind
              exact .inr ⟨result.1, _, _, rfl, rfl, (hremembers.mono hkeeps).device hknows⟩

/-- To recall the podcast of an action is to find or add it, and what is remembered then is
known. -/
theorem Remembers.recall_podcast (hremembers : store.Remembers userId devices podcasts)
    (url : String) :
    let found := recallText (plain.podcastId userId) podcasts url
    (∃ failure, found.whole store = .error failure ∧
        (plain.podcastId userId url).whole store = .error failure) ∨
      ∃ next memory id, found.whole store = .ok (next, memory, id) ∧
        (plain.podcastId userId url).whole store = .ok (next, id) ∧
          next.Remembers userId devices memory := by
  intro found
  unfold found
  cases hlookup : podcasts.lookup url with
  | some id =>
      rw [recall_text_of_some hlookup,
        find_podcast_of_knows (hremembers.podcasts url id hlookup)]
      exact .inr ⟨store, podcasts, id, rfl, rfl, hremembers⟩
  | none =>
      rw [recall_text_of_none hlookup, Procedure.whole_bind]
      cases hfind : (plain.podcastId userId url).whole store with
      | error failure => exact .inl ⟨failure, rfl, rfl⟩
      | ok result =>
          obtain ⟨hknows, hkeeps⟩ := knows_of_find_podcast hfind
          exact .inr ⟨result.1, _, _, rfl, rfl, (hremembers.mono hkeeps).podcast hknows⟩

/-- To place an action is to place its device, its podcast and its episode by their ids. -/
theorem place_action_eq (store : Store) (userId : Int) (action : ValidAction) :
    store.placeAction userId action = (do
      let (store, deviceId) ← store.placeDevice userId action.device
      let (store, podcastId) ← (plain.podcastId userId action.podcast).whole store
      let (store, episodeId) ←
        (plain.episodeId podcastId action.episode action.guid).whole store
      .ok (store,
        { kind := action.kind
          deviceId
          podcastId
          episodeId
          occurredAt := action.timestamp
          started := action.started
          position := action.position
          total := action.total })) := by
  simp only [plain_podcast_id, plain_episode_id, bind_assoc]
  rfl

/-- A batch is placed with memory as it is placed without. -/
theorem Remembers.place_eq (hremembers : store.Remembers userId devices podcasts)
    (actions : List ValidAction) :
    (plain.place userId devices podcasts actions).whole store =
      store.placeActions userId actions := by
  induction actions generalizing store devices podcasts with
  | nil => rfl
  | cons action actions ih =>
      unfold RowStatements.place placeActions
      rw [place_action_eq]
      simp only [Procedure.whole_bind, Procedure.whole_pure]
      obtain ⟨failure, hrecall, hplace⟩ | ⟨first, memory, id, hrecall, hplace, hfirst⟩ :=
        hremembers.recall_device action.device
      · rw [hrecall, hplace]
        rfl
      rw [hrecall, hplace]
      simp only [bind, Except.bind]
      obtain ⟨failure, hrecall, hplace⟩ | ⟨second, memory', id', hrecall, hplace, hsecond⟩ :=
        hfirst.recall_podcast action.podcast
      · rw [hrecall, hplace]
      rw [hrecall, hplace]
      dsimp only
      cases hfind : (plain.episodeId id' action.episode action.guid).whole second with
      | error failure => rfl
      | ok found =>
          dsimp only
          rw [ih (hsecond.mono (keeps_known_of_find_episode hfind))]

/-- With nothing remembered yet, a batch is placed with memory as it is placed without. -/
theorem place_remembering (store : Store) (userId : Int) (actions : List ValidAction) :
    (plain.place userId [] [] actions).whole store = store.placeActions userId actions :=
  (remembers_nothing store userId).place_eq actions

/-- A batch of rows is appended to the log as it is at once, also if there are none. -/
theorem plain_insert_actions (store : Store) (rows : List EpisodeAction) :
    (plain.insertActions rows).whole store = store.insertActions rows := by
  unfold RowStatements.insertActions insertActions
  split
  · next hnone =>
      subst hnone
      rw [require_of (List.forall_mem_nil _)]
      rfl
  · rfl

/-- A batch is stored with memory as it is stored without. -/
theorem add_actions_remembering (store : Store) (userName : String) (uploads : List ActionUpload) :
    store.addActionsRemembering userName uploads = store.addActions userName uploads := by
  unfold addActionsRemembering RowStatements.addActions addActions
  simp only [Procedure.whole_bind, Procedure.whole_pure, RowStatements.plain_check,
    RowStatements.plain_query, map_bind, place_remembering, plain_insert_actions]

end PodcastLedger.Store
