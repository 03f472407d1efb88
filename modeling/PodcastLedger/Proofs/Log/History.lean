import PodcastLedger.Proofs.Isolation.Frame
import PodcastLedger.Proofs.Ledger.Evolution
import PodcastLedger.Proofs.Log.Batches

/-!
# History

What was recorded is never rewritten. A request leaves the log as it is with new rows behind, or
detaches the rows of the device that it destroys, or removes the rows of the account that it
destroys. `Store.Recounts` says so for all rows of the log, of the episodes and of the podcasts;
`Store.Consistent.recounts_step` derives it for one request and `Store.Consistent.recounts_run` for
a session.
-/

namespace PodcastLedger

/-- An action goes on as it is, but without its device once the device has ended. -/
structure EpisodeAction.Continues (ended : Int → Prop) (action later : EpisodeAction) : Prop where
  others : later = { action with deviceId := later.deviceId }
  detached : ∀ deviceId ∈ action.deviceId, ended deviceId → later.deviceId = none
  attached : (∀ deviceId ∈ action.deviceId, ¬ ended deviceId) → later.deviceId = action.deviceId

section Continues

variable {ended ended' : Int → Prop} {action later last : EpisodeAction}

/-- While no device ends, actions stay as they are. -/
theorem EpisodeAction.Continues.refl (hnone : ∀ deviceId, ¬ ended deviceId)
    (action : EpisodeAction) : action.Continues ended action :=
  ⟨rfl, fun deviceId _ hended => absurd hended (hnone deviceId), fun _ => rfl⟩

/-- An action that goes on twice has lost its device if the device ended the first time or the
second time. -/
theorem EpisodeAction.Continues.trans (hfirst : action.Continues ended later)
    (hsecond : later.Continues ended' last) :
    action.Continues (fun deviceId => ended deviceId ∨ ended' deviceId) last where
  others := by
    rw [hsecond.others, hfirst.others]
  detached := by
    intro deviceId hdevice hended
    by_cases hbefore : ended deviceId
    · have hnone := hfirst.detached deviceId hdevice hbefore
      rw [← hnone]
      exact hsecond.attached (by rw [hnone]; exact nofun)
    · have hstill : later.deviceId = action.deviceId := by
        refine hfirst.attached fun other hother => ?_
        rwa [Option.mem_unique hother hdevice]
      exact hsecond.detached deviceId (hstill ▸ hdevice) (hended.resolve_left hbefore)
  attached := by
    intro hkept
    have hstill : later.deviceId = action.deviceId :=
      hfirst.attached fun deviceId hdevice hended => hkept deviceId hdevice (.inl hended)
    rw [← hstill]
    refine hsecond.attached fun deviceId hdevice hended => ?_
    exact hkept deviceId (hstill ▸ hdevice) (.inr hended)

/-- Which devices have ended is all that matters. -/
theorem EpisodeAction.Continues.congr (hcontinues : action.Continues ended later)
    (hsame : ∀ deviceId, ended deviceId ↔ ended' deviceId) : action.Continues ended' later where
  others := hcontinues.others
  detached deviceId hdevice hended :=
    hcontinues.detached deviceId hdevice ((hsame deviceId).mpr hended)
  attached hkept := hcontinues.attached fun deviceId hdevice hended =>
    hkept deviceId hdevice ((hsame deviceId).mp hended)

end Continues

namespace Store

variable {store middle next : Store} {userId : Int} {name : String} {request : Request}

/-! ## The log -/

/-- A registered device leaves the log. -/
theorem register_device_log {device : String} {registration : Registration}
    (hregister : store.registerDevice userId device = .ok (next, registration)) :
    next.actions = store.actions :=
  (ignores_log_register_device device).log_eq hregister

/-- Turned podcasts leave the log. -/
theorem turn_podcasts_log {selected : String → Bool} {subscribed : Bool} {time : Instant}
    {turned : List (Entry Podcast)}
    (hturn : store.turnPodcasts userId selected subscribed time = .ok (next, turned)) :
    next.actions = store.actions := by
  simp only [turnPodcasts, bind_eq_ok_iff] at hturn
  obtain ⟨_, _, hturn⟩ := hturn
  cases hturn
  rfl

/-- Added podcasts leave the log. -/
theorem insert_podcasts_log {urls : List String}
    (hinsert : store.insertPodcasts userId urls = .ok next) : next.actions = store.actions := by
  rw [(insert_podcasts_iff.mp hinsert).2, with_podcasts_eq]

/-- An uploaded list of subscriptions leaves the log. -/
theorem replace_subscriptions_log {device : String} {timestamp : Instant} {raws : List String}
    {update : SubscriptionUpdate}
    (hreplace : store.replaceSubscriptions name device timestamp raws = .ok (next, update)) :
    next.actions = store.actions := by
  simp only [replaceSubscriptions, bind_eq_ok_iff] at hreplace
  obtain ⟨_, _, _, _, ⟨registered, _⟩, hregister, ⟨ended, _⟩, hend, added, hadd,
    ⟨last, _⟩, hturn, hresult⟩ := hreplace
  cases hresult
  exact (turn_podcasts_log hturn).trans <| (insert_podcasts_log hadd).trans <|
    (turn_podcasts_log hend).trans (register_device_log hregister)

/-- Uploaded changes of subscriptions leave the log. -/
theorem change_subscriptions_log {device : String} {timestamp : Instant} {add remove : List String}
    {update : SubscriptionUpdate}
    (hchange : store.changeSubscriptions name device timestamp add remove = .ok (next, update)) :
    next.actions = store.actions := by
  simp only [changeSubscriptions, bind_eq_ok_iff] at hchange
  obtain ⟨_, _, hchange⟩ := hchange
  split at hchange
  · cases hchange
  · simp only [bind_eq_ok_iff] at hchange
    obtain ⟨_, _, ⟨registered, _⟩, hregister, added, hadd, ⟨turned, _⟩, hturn, ⟨last, _⟩, hend,
      hresult⟩ := hchange
    cases hresult
    exact (turn_podcasts_log hend).trans <| (turn_podcasts_log hturn).trans <|
      (insert_podcasts_log hadd).trans (register_device_log hregister)

/-- A described device leaves the log. -/
theorem update_device_log {device : String} {caption kind : Option String} {updated : Entry Device}
    (hupdate : store.updateDevice name device caption kind = .ok (next, updated)) :
    next.actions = store.actions := by
  simp only [updateDevice, describeDevice, bind_eq_ok_iff] at hupdate
  obtain ⟨_, _, _, _, _, _, ⟨registered, _⟩, hregister, _, _, hresult⟩ := hupdate
  cases hresult
  show registered.actions = store.actions
  exact register_device_log hregister

/-- A new account leaves the log. -/
theorem create_user_log {password : String} {workFactor : Nat} {user : Entry User}
    (hcreate : store.createUser name password workFactor = .ok (next, user)) :
    next.actions = store.actions := by
  obtain ⟨_, rfl⟩ := create_user_inserts hcreate
  rfl

/-- A removed setting leaves all but the settings. -/
theorem remove_setting_only {target : Target} {key : String}
    (hremove : store.removeSetting userId target key = .ok next) :
    next = { store with settings := next.settings } := by
  obtain ⟨_, _, hremove⟩ := bind_eq_ok_iff.mp hremove
  cases hremove
  rfl

/-- A setting that is given a value leaves all but the settings. -/
theorem upsert_setting_only {target : Target} {key value : String}
    (hupsert : store.upsertSetting userId target key value = .ok next) :
    next = { store with settings := next.settings } := by
  obtain ⟨_, _, hupsert⟩ := bind_eq_ok_iff.mp hupsert
  split at hupsert <;> cases hupsert <;> rfl

/-- Removed settings leave all but the settings. -/
theorem remove_settings_only {target : Target} {keys : List String}
    (hremove : store.removeSettings userId target keys = .ok next) :
    next = { store with settings := next.settings } := by
  induction keys generalizing store with
  | nil =>
      cases hremove
      rfl
  | cons key rest ih =>
      obtain ⟨middle, hfirst, hrest⟩ := bind_eq_ok_iff.mp hremove
      rw [ih hrest, remove_setting_only hfirst]

/-- Assigned settings leave all but the settings. -/
theorem assign_settings_only {target : Target} {assignments : List (String × String)}
    (hassign : store.assignSettings userId target assignments = .ok next) :
    next = { store with settings := next.settings } := by
  induction assignments generalizing store with
  | nil =>
      cases hassign
      rfl
  | cons assignment rest ih =>
      unfold assignSettings at hassign
      split at hassign <;> obtain ⟨middle, hfirst, hrest⟩ := bind_eq_ok_iff.mp hassign
      · rw [ih hrest, remove_setting_only hfirst]
      · rw [ih hrest, upsert_setting_only hfirst]

/-- Saved settings leave all but the settings. -/
theorem save_settings_only {key : SettingsKey} {assignments : List (String × String)}
    {removals : List String} {values : List (String × String)}
    (hsave : store.saveSettings name key assignments removals = .ok (next, values)) :
    next = { store with settings := next.settings } := by
  simp only [saveSettings, bind_eq_ok_iff] at hsave
  obtain ⟨_, _, user, _, resolved, _, assigned, hassign, removed, hremove, hresult⟩ := hsave
  cases hresult
  rw [remove_settings_only hremove, assign_settings_only hassign]

/-- An uploaded batch is behind the log as it was. -/
theorem add_actions_log {uploads : List ActionUpload} {added : ActionsAdded}
    (hadd : store.addActions name uploads = .ok (next, added)) :
    store.actions.Evolves (fun _ => True) Eq next.actions := by
  obtain ⟨actions, user, placed, rows, _, _, hplace, _, happend, _⟩ := add_actions_iff.mp hadd
  have hlog : placed.actions = store.actions := (ignores_log_place_actions actions).log_eq hplace
  rw [← hlog]
  obtain rfl : (placed.appendActions rows).1 = next := congrArg Prod.fst happend
  clear * -
  induction rows generalizing placed with
  | nil => exact .refl (fun _ => rfl) _
  | cons row rows ih =>
      have hinsert : placed.actions.Evolves (fun _ => True) Eq
          (placed.actions.insert (keptAction row)) := Table.evolves_insert (fun _ => rfl) _ _
      exact hinsert.trans_all (ih { placed with actions := placed.actions.insert (keptAction row) })
        fun _ _ _ => Eq.trans

/-- A request that ends neither a device nor an account leaves the log with new rows behind. -/
theorem log_evolves {answer : Answer} (hanswer : store.answer name request = .ok (next, answer))
    (hdevice : ∀ device, request ≠ .destroyDevice device) (haccount : request ≠ .destroyUser) :
    store.actions.Evolves (fun _ => True) Eq next.actions := by
  have hsame : next.actions = store.actions →
      store.actions.Evolves (fun _ => True) Eq next.actions := by
    intro hlog
    rw [hlog]
    exact .refl (fun _ => rfl) _
  cases request with
  | createUser =>
      obtain ⟨_, hcreate, _⟩ := write_ok hanswer
      exact hsame (create_user_log hcreate)
  | destroyUser => exact absurd rfl haccount
  | registerDevice =>
      obtain ⟨_, hregister, _⟩ := write_ok hanswer
      obtain ⟨_, _, hregister⟩ := bind_eq_ok_iff.mp hregister
      exact hsame (register_device_log hregister)
  | updateDevice =>
      obtain ⟨_, hupdate, _⟩ := write_ok hanswer
      exact hsame (update_device_log hupdate)
  | destroyDevice device => exact absurd rfl (hdevice device)
  | replaceSubscriptions =>
      obtain ⟨_, hreplace, _⟩ := write_ok hanswer
      exact hsame (replace_subscriptions_log hreplace)
  | changeSubscriptions =>
      obtain ⟨_, hchange, _⟩ := write_ok hanswer
      exact hsame (change_subscriptions_log hchange)
  | addActions =>
      obtain ⟨_, hadd, _⟩ := write_ok hanswer
      exact add_actions_log hadd
  | saveSettings =>
      obtain ⟨_, hsave, _⟩ := write_ok hanswer
      obtain ⟨_, _, hsave⟩ := bind_eq_ok_iff.mp hsave
      have hlog : next.actions = store.actions := by rw [save_settings_only hsave]
      exact hsame hlog
  | loadUser | findDevice | listDevices | subscriptionChanges | subscriptions | findPodcast
  | listActions | lastAction | favorites | resolveKey | getSettings =>
      obtain ⟨rfl, _⟩ := read_ok hanswer
      exact hsame rfl

/-! ## Ends -/

/-- The request destroys the device under the id: it names the device of its user, and succeeds. -/
def EndsDevice (store : Store) (name : String) (request : Request) (deviceId : Int) : Prop :=
  ∃ deviceName user device, request = .destroyDevice deviceName ∧
    store.findUser? name = some user ∧ store.findDevice? user.id deviceName = some device ∧
    device.id = deviceId ∧ ∃ answer, (store.step name request).2 = .ok answer

/-- The request destroys the account under the id: it is of the user who has it, and succeeds. -/
def EndsAccount (store : Store) (name : String) (request : Request) (userId : Int) : Prop :=
  request = .destroyUser ∧ ∃ user, store.findUser? name = some user ∧ user.id = userId ∧
    ∃ answer, (store.step name request).2 = .ok answer

/-- Some request of the session destroys the device under the id. -/
def EndsDeviceIn (store : Store) : List (String × Request) → Int → Prop
  | [], _ => False
  | (name, request) :: rest, deviceId =>
    store.EndsDevice name request deviceId ∨
      (store.step name request).1.EndsDeviceIn rest deviceId

/-- Some request of the session destroys the account under the id. -/
def EndsAccountIn (store : Store) : List (String × Request) → Int → Prop
  | [], _ => False
  | (name, request) :: rest, userId =>
    store.EndsAccount name request userId ∨ (store.step name request).1.EndsAccountIn rest userId

/-! ## What goes on -/

/-- The podcasts of the users who stay, their episodes and their actions go on, and nothing but what
became of a row is ever under its id. -/
structure Recounts (store next : Store) (stays ended : Int → Prop) : Prop where
  podcasts : store.podcasts.Evolves (fun podcast => stays podcast.userId) Podcast.Continues
    next.podcasts
  episodes : store.episodes.Evolves
    (fun episode => ∃ userId, stays userId ∧ store.HasPodcast userId episode.podcastId)
    Episode.Continues next.episodes
  actions : store.actions.Evolves
    (fun action => ∃ userId, stays userId ∧ store.HasPodcast userId action.podcastId)
    (EpisodeAction.Continues ended) next.actions

variable {stays stays' ended ended' : Int → Prop}

/-- A store that stays as it is goes on. -/
theorem Recounts.refl (hnone : ∀ deviceId, ¬ ended deviceId) (store : Store) :
    store.Recounts store stays ended :=
  ⟨.refl .refl _, .refl .refl _, .refl (.refl hnone) _⟩

/-- A podcast of a user who stays is one of the user still. -/
theorem Recounts.has_podcast (hrecounts : store.Recounts next stays ended) {podcastId : Int}
    (hstays : stays userId) (hpodcast : store.HasPodcast userId podcastId) :
    next.HasPodcast userId podcastId := by
  obtain ⟨podcast, hmem, rfl, rfl⟩ := hpodcast
  obtain ⟨later, hlater, hid, hcontinues⟩ := hrecounts.podcasts.carried podcast hmem hstays
  exact ⟨later, hlater, hid, hcontinues.user⟩

/-- What goes on twice goes on for the users who stay both times. -/
theorem Recounts.trans (hfirst : store.Recounts middle stays ended)
    (hsecond : middle.Recounts next stays' ended') :
    store.Recounts next (fun userId => stays userId ∧ stays' userId)
      (fun deviceId => ended deviceId ∨ ended' deviceId) where
  podcasts := by
    refine hfirst.podcasts.trans hsecond.podcasts ?_ fun _ _ _ => .trans
    rintro podcast ⟨hstays, hstays'⟩
    refine ⟨hstays, fun later hcontinues => ?_⟩
    rw [hcontinues.user]
    exact hstays'
  episodes := by
    refine hfirst.episodes.trans hsecond.episodes ?_ fun _ _ _ => .trans
    rintro episode ⟨userId, ⟨hstays, hstays'⟩, hpodcast⟩
    refine ⟨⟨userId, hstays, hpodcast⟩, fun later hcontinues => ⟨userId, hstays', ?_⟩⟩
    rw [hcontinues.podcast]
    exact hfirst.has_podcast hstays hpodcast
  actions := by
    refine hfirst.actions.trans hsecond.actions ?_ fun _ _ _ => .trans
    rintro action ⟨userId, ⟨hstays, hstays'⟩, hpodcast⟩
    refine ⟨⟨userId, hstays, hpodcast⟩, fun later hcontinues => ⟨userId, hstays', ?_⟩⟩
    rw [hcontinues.others]
    exact hfirst.has_podcast hstays hpodcast

/-- What goes on does so for fewer users, whatever is said of the devices that have ended. -/
theorem Recounts.congr (hrecounts : store.Recounts next stays ended)
    (hstays : ∀ userId, stays' userId → stays userId)
    (hended : ∀ deviceId, ended deviceId ↔ ended' deviceId) :
    store.Recounts next stays' ended' where
  podcasts := hrecounts.podcasts.mono (fun _ => hstays _) fun _ _ h => h
  episodes := hrecounts.episodes.mono (fun _ ⟨userId, h, hpodcast⟩ => ⟨userId, hstays _ h, hpodcast⟩)
    fun _ _ h => h
  actions := hrecounts.actions.mono (fun _ ⟨userId, h, hpodcast⟩ => ⟨userId, hstays _ h, hpodcast⟩)
    fun _ _ h => h.congr hended

/-- The end of a device detaches its actions, and no others. -/
theorem recounts_without_device (store : Store) (deviceId : Int) :
    store.Recounts (store.withoutDevice deviceId) stays (· = deviceId) := by
  rw [without_device_eq]
  refine ⟨.refl .refl _, .refl .refl _, ?_⟩
  dsimp only
  refine Table.evolves_modify _ _ fun action _ => ?_
  split
  · next hdevice =>
      have hof : action.row.deviceId = some deviceId := beq_iff_eq.mp hdevice
      refine ⟨rfl, fun _ _ _ => rfl, fun hkept => absurd rfl (hkept deviceId hof)⟩
  · next hother =>
      refine ⟨rfl, ?_, fun _ => rfl⟩
      rintro _ hof rfl
      rw [beq_iff_eq] at hother
      exact absurd hof hother

/-- The end of an account leaves what belongs to other users. -/
theorem recounts_without_user (store : Store) (userId : Int) :
    store.Recounts (store.withoutUser userId) (· ≠ userId) fun _ => False where
  podcasts := Table.evolves_remove .refl fun _ _ hother => beq_eq_false_iff_ne.mpr hother
  episodes := Table.evolves_remove .refl fun _ _ ⟨_, hother, hpodcast⟩ => hpodcast.other hother
  actions := Table.evolves_remove (.refl fun _ => id)
    fun _ _ ⟨_, hother, hpodcast⟩ => hpodcast.other hother

/-! ## Requests and sessions -/

/-- After any request, failed or not, all rows go on but those of an account that it destroys, and
all actions keep their devices but those of a device that it destroys. -/
theorem Consistent.recounts_step (hconsistent : store.Consistent) (name : String)
    (request : Request) :
    store.Recounts (store.step name request).1 (fun userId => ¬ store.EndsAccount name request userId)
      (store.EndsDevice name request) := by
  cases hanswer : store.answer name request with
  | error failure =>
      have hnone : ∀ deviceId, ¬ store.EndsDevice name request deviceId := by
        rintro deviceId ⟨_, _, _, _, _, _, _, answer, hok⟩
        rw [step_of_error hanswer] at hok
        cases hok
      rw [step_of_error hanswer]
      exact .refl hnone store
  | ok outcome =>
      obtain ⟨next, answer⟩ := outcome
      have hok : ∃ answer, (store.step name request).2 = .ok answer := by
        rw [step_of_answer hanswer]
        exact ⟨answer, rfl⟩
      rw [step_of_answer hanswer]
      by_cases haccount : request = .destroyUser
      · subst haccount
        obtain ⟨_, hdestroy, _⟩ := write_ok hanswer
        obtain ⟨user, hload, hdestroy⟩ := bind_eq_ok_iff.mp hdestroy
        obtain rfl := congrArg Prod.fst (Except.ok.inj hdestroy)
        rw [destroy_account_eq hconsistent]
        refine (recounts_without_user store user.id).congr ?_ fun deviceId => ?_
        · rintro userId hstays rfl
          exact hstays ⟨rfl, user, (load_user_ok hload).2.2, rfl, hok⟩
        · exact ⟨False.elim, nofun⟩
      by_cases hdevice : ∃ device, request = .destroyDevice device
      · obtain ⟨device, rfl⟩ := hdevice
        obtain ⟨_, hdestroy, _⟩ := write_ok hanswer
        simp only [destroyDevice, bind_eq_ok_iff] at hdestroy
        obtain ⟨user, hload, entry, hentry, hdestroy⟩ := hdestroy
        obtain rfl := congrArg Prod.fst (Except.ok.inj hdestroy)
        have hfind := (load_user_ok hload).2.2
        have hfound := load_device_ok hentry
        refine (store.recounts_without_device entry.id).congr (fun _ _ => trivial) fun deviceId => ?_
        constructor
        · rintro rfl
          exact ⟨device, user, entry, rfl, hfind, hfound, rfl, hok⟩
        · rintro ⟨deviceName, other, otherDevice, hrequest, hother, hotherDevice, rfl, _⟩
          cases hrequest
          rw [hfind] at hother
          cases hother
          rw [hfound] at hotherDevice
          cases hotherDevice
          rfl
      have hnone : ∀ deviceId, ¬ store.EndsDevice name request deviceId := by
        rintro deviceId ⟨device, _, _, hrequest, _⟩
        exact hdevice ⟨device, hrequest⟩
      obtain ⟨hpodcasts, hepisodes⟩ := (answer_effect hanswer).catalog_evolves haccount
      have hlog := log_evolves hanswer (fun device hrequest => hdevice ⟨device, hrequest⟩) haccount
      refine ⟨hpodcasts.mono (fun _ _ => trivial) fun _ _ h => h,
        hepisodes.mono (fun _ _ => trivial) fun _ _ h => h,
        hlog.mono (fun _ _ => trivial) ?_⟩
      rintro action _ rfl
      exact .refl hnone action

/-- After any session all rows go on but those of the accounts that were destroyed in it, and all
actions keep their devices but those of the devices that were destroyed in it. -/
theorem Consistent.recounts_run (hconsistent : store.Consistent)
    (session : List (String × Request)) :
    store.Recounts (store.run session).1 (fun userId => ¬ store.EndsAccountIn session userId)
      (store.EndsDeviceIn session) := by
  induction session generalizing store with
  | nil => exact .refl (fun _ => id) store
  | cons first rest ih =>
      obtain ⟨name, request⟩ := first
      refine ((hconsistent.recounts_step name request).trans
        (ih (hconsistent.step name request))).congr ?_ fun _ => Iff.rfl
      exact fun userId hstays => not_or.mp hstays

/-- Every episode and every action is of a user who is there. -/
theorem Consistent.all_owned (hconsistent : store.Consistent) :
    (∀ episode ∈ store.episodes.entries,
      ∃ userId, store.users.Has userId ∧ store.HasPodcast userId episode.row.podcastId) ∧
    ∀ action ∈ store.actions.entries,
      ∃ userId, store.users.Has userId ∧ store.HasPodcast userId action.row.podcastId := by
  constructor
  · intro episode hmem
    obtain ⟨podcast, hpodcast, hid⟩ := hconsistent.episodes_placed episode hmem
    exact ⟨podcast.row.userId, hconsistent.podcasts_owned podcast hpodcast, podcast, hpodcast, hid,
      rfl⟩
  · intro action hmem
    obtain ⟨userId, huser, hplaces⟩ := hconsistent.actions_placed action hmem
    exact ⟨userId, huser, hplaces.podcast⟩

/-- History is never rewritten. Everything recorded is of some user, and whatever is asked of the
store, in one request or in a session, all that is of the users who stay goes on: podcasts keep
their addresses, episodes what they are known by, and actions everything but a device that is
destroyed. -/
theorem history_goes_on (hreachable : store.Reachable) :
    ((∀ episode ∈ store.episodes.entries,
        ∃ userId, store.users.Has userId ∧ store.HasPodcast userId episode.row.podcastId) ∧
      ∀ action ∈ store.actions.entries,
        ∃ userId, store.users.Has userId ∧ store.HasPodcast userId action.row.podcastId) ∧
    (∀ name request, store.Recounts (store.step name request).1
      (fun userId => ¬ store.EndsAccount name request userId) (store.EndsDevice name request)) ∧
    ∀ session, store.Recounts (store.run session).1
      (fun userId => ¬ store.EndsAccountIn session userId) (store.EndsDeviceIn session) :=
  ⟨hreachable.consistent.all_owned, hreachable.consistent.recounts_step,
    hreachable.consistent.recounts_run⟩

/-- An account with one action from one device. -/
def actionFromPhone : List (String × Request) :=
  [("ann", .createUser "long enough" 10),
    ("ann", .addActions [⟨"download", some "phone", "http://a.example/1", some "one",
      "http://a.example/feed", none, none, .ofUnix 1000, none⟩])]

/-- When the device is destroyed, the action goes on without it. -/
theorem history_without_phone :
    let store := (Store.empty.run actionFromPhone).1
    let row : EpisodeAction := ⟨.download, some 1, 1, 1, .ofUnix 1000, none, none, none⟩
    store.actions.entries = [⟨1, row⟩] ∧
      store.EndsDevice "ann" (.destroyDevice "phone") 1 ∧
      store.Recounts (store.step "ann" (.destroyDevice "phone")).1
        (fun userId => ¬ store.EndsAccount "ann" (.destroyDevice "phone") userId)
        (store.EndsDevice "ann" (.destroyDevice "phone")) ∧
      (store.step "ann" (.destroyDevice "phone")).1.actions.entries =
        [⟨1, { row with deviceId := none }⟩] := by
  intro store row
  refine ⟨by decide +kernel, ?_, ?_, by decide +kernel⟩
  · exact ⟨"phone", ⟨1, "ann", false, 10⟩, ⟨1, 1, "phone", "", .other⟩, rfl, by decide +kernel,
      by decide +kernel, rfl, .deviceDestroyed ⟨1, 1, 0⟩, by decide +kernel⟩
  · exact (history_goes_on (Reachable.empty.run actionFromPhone)).2.1 "ann" (.destroyDevice "phone")

end Store

end PodcastLedger
