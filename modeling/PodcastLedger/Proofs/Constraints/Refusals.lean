import PodcastLedger.Proofs.Constraints.Conformity
import PodcastLedger.Proofs.Settings.Saving
import PodcastLedger.Proofs.Uploads.Interchange

/-!
# Failures of requests

What requests fail for. With texts and times that statements can carry, every operation fails only
for what the user has caused: an input that breaks a rule, or something that is not there. So the
store refuses nothing (`Store.answer_fails`). Addresses in uploads may be any texts, as only canonical
forms are carried.
-/

namespace PodcastLedger

/-- The failure is one that the user caused: it is reported as one of the kinds of user errors. -/
def Failure.IsOfUser (failure : Failure) : Prop :=
  failure.report.userErrorKind?.isSome = true

/-- The user caused every failure but those of refused statements. -/
theorem Failure.is_of_user_iff {failure : Failure} :
    failure.IsOfUser ↔ ∀ statement, failure ≠ .refused statement := by
  unfold IsOfUser
  cases failure <;> simp [report, Report.userErrorKind?, Cause.userErrorKind?]

/-- A failure that the user caused is not internal. -/
theorem Failure.IsOfUser.not_internal {failure : Failure} (huser : failure.IsOfUser) :
    failure.report.isInternal = false := by
  refine Bool.eq_false_iff.mpr fun hinternal => ?_
  obtain ⟨statement, hrefused⟩ := failure.isInternal_report.mp hinternal
  exact Failure.is_of_user_iff.mp huser statement hrefused

/-- The texts of a key that names something. -/
def SettingsKey.texts : SettingsKey → List String
  | .account => []
  | .device name => [name]
  | .episode podcastRaw raw => [podcastRaw, raw]
  | .podcast raw => [raw]

/-- The texts of a key as a client sends it. -/
def KeyTexts.texts (key : KeyTexts) : List String :=
  key.scope :: key.device.toList ++ key.podcast.toList ++ key.episode.toList

/-- The texts of an upload of an action, but for the addresses of its podcast and its episode. -/
def ActionUpload.texts (upload : ActionUpload) : List String :=
  upload.action :: upload.device.toList ++ upload.guid.toList

/-- The texts of a request, but for the addresses of uploads. -/
def Request.texts : Request → List String
  | .createUser password _ => [password]
  | .loadUser | .destroyUser | .listDevices | .subscriptions _ | .favorites => []
  | .registerDevice device | .findDevice device | .destroyDevice device => [device]
  | .updateDevice device caption kind => device :: caption.toList ++ kind.toList
  | .replaceSubscriptions device _ _ | .changeSubscriptions device _ _ _ => [device]
  | .subscriptionChanges device _ => [device]
  | .findPodcast url => [url]
  | .addActions uploads => uploads.flatMap ActionUpload.texts
  | .listActions query => query.device.toList ++ query.podcast.toList
  | .lastAction podcast _ => [podcast]
  | .resolveKey key | .getSettings key => key.texts
  | .saveSettings key assignments removals =>
    key.texts ++ assignments.flatMap (fun assignment => [assignment.1, assignment.2]) ++ removals

/-- The times of a request. -/
def Request.times : Request → List Instant
  | .replaceSubscriptions _ timestamp _ | .changeSubscriptions _ timestamp _ _ => [timestamp]
  | .subscriptionChanges _ since | .subscriptions since => since.toList
  | .addActions uploads => uploads.map (·.timestamp)
  | .listActions query => query.since.toList
  | _ => []

namespace Store

variable {store next : Store} {userId : Int} {userName name : String} {time : Instant}

/-! ## Lookups -/

/-- Names fail only for the user. -/
theorem validate_name_fails {kind : String} :
    FailsOnly Failure.IsOfUser (validateName kind name) := by
  unfold validateName
  split
  · exact fails_only_error rfl
  · split
    · exact fails_only_ok _
    · exact fails_only_error rfl

/-- A statement that is let pass does not fail. -/
theorem require_fails {condition : Prop} [Decidable condition] {statement : Statement}
    (hcondition : condition) : FailsOnly Failure.IsOfUser (require condition statement) :=
  fails_only_of_ok (require_of hcondition)

/-- A user is loaded by a name that can be carried, unless there is none. -/
theorem load_user_fails (hname : IsBindable userName) :
    FailsOnly Failure.IsOfUser (store.loadUser userName) := by
  unfold loadUser
  split
  · exact fails_only_error rfl
  · refine (require_fails hname).bind fun _ _ => ?_
    split
    · exact fails_only_ok _
    · exact fails_only_error rfl

/-- A device is looked for by a name that can be carried. -/
theorem select_device_fails (hname : IsBindable name) :
    FailsOnly Failure.IsOfUser (store.selectDevice userId name) :=
  (require_fails hname).bind fun _ _ => fails_only_ok _

/-- A device is loaded by a name that can be carried, unless there is none. -/
theorem load_device_fails (hname : IsBindable name) :
    FailsOnly Failure.IsOfUser (store.loadDevice userId name) := by
  refine (select_device_fails hname).bind fun device? _ => ?_
  split
  · exact fails_only_ok _
  · exact fails_only_error rfl

/-- A podcast is looked for by any text. -/
theorem select_raw_podcast_fails (raw : String) :
    FailsOnly Failure.IsOfUser (store.selectRawPodcast userId raw) :=
  fails_only_of_ok (select_raw_podcast_eq ..)

/-- The bound of a query can be carried if the store has its time. -/
theorem require_bound_fails {since : Option Instant} {statement : Statement}
    (hsince : ∀ bound ∈ since, bound.IsStorable) :
    FailsOnly Failure.IsOfUser (requireBound since statement) :=
  require_fails hsince

/-! ## Devices and subscriptions -/

/-- A device is registered for any user there is, unless its name is none. -/
theorem register_any_device_fails (huser : store.users.Has userId) :
    FailsOnly Failure.IsOfUser (store.registerDevice userId name) := by
  refine validate_name_fails.bind fun _ hvalid => ?_
  have hname : IsName name := validateName_eq_ok_iff.mp hvalid
  refine (require_fails ⟨hname.1, hname.bindable, huser⟩).bind fun _ _ => ?_
  split <;> exact fails_only_ok _

/-- Kinds of devices are read, or fail for the user. -/
theorem read_device_kind_fails (text : Option String) :
    FailsOnly Failure.IsOfUser (readDeviceKind text) := by
  unfold readDeviceKind
  split
  · exact fails_only_ok _
  · split
    · exact fails_only_ok _
    · exact fails_only_error rfl

/-- A device is updated with a caption that can be carried. What it had before can be carried as
well. -/
theorem update_device_fails (hconstrained : store.Constrained) (hname : IsBindable userName)
    {caption kind : Option String} (hcaption : ∀ text ∈ caption, IsBindable text) :
    FailsOnly Failure.IsOfUser (store.updateDevice userName name caption kind) := by
  refine validate_name_fails.bind fun _ _ => (read_device_kind_fails kind).bind fun _ _ => ?_
  refine (load_user_fails hname).bind fun user hload => ?_
  have huser := has_of_load_user hload
  refine (register_any_device_fails huser).bind ?_
  rintro ⟨registered, registration⟩ hregister
  refine (require_fails ?_).bind fun _ _ => fails_only_ok _
  cases caption with
  | some text => exact hcaption text rfl
  | none =>
      have hextends : Guarded.Extends store registered :=
        (Guarded.register_device_performs hconstrained user.id name).of_ok hregister
      obtain ⟨_, _, hmem, _⟩ := register_device_gains hregister
      exact (Device.checked_iff.mp (hextends.constrained.devices_checked _ hmem)).2

/-- Podcasts are turned as of a time that can be stored. -/
theorem turn_storable_podcasts_fails (htime : time.IsStorable) {selected : String → Bool}
    {subscribed : Bool} :
    FailsOnly Failure.IsOfUser (store.turnPodcasts userId selected subscribed time) :=
  (require_fails (.inr htime)).bind fun _ _ => fails_only_ok _

/-- Subscriptions are replaced as of a time that can be stored, whatever the addresses. -/
theorem replace_storable_subscriptions_fails (hname : IsBindable userName) (htime : time.IsStorable)
    (device : String) (raws : List String) :
    FailsOnly Failure.IsOfUser (store.replaceSubscriptions userName device time raws) :=
  replace_subscriptions_fails_only validate_name_fails (load_user_fails hname)
    fun _ _ _ _ => turn_storable_podcasts_fails htime

/-- Subscriptions are changed as of a time that can be stored, whatever the addresses. -/
theorem change_storable_subscriptions_fails (hname : IsBindable userName) (htime : time.IsStorable)
    (device : String) (add remove : List String) :
    FailsOnly Failure.IsOfUser (store.changeSubscriptions userName device time add remove) :=
  change_subscriptions_fails_only validate_name_fails (fun _ _ => rfl) (load_user_fails hname)
    fun _ _ _ _ => turn_storable_podcasts_fails htime

/-! ## The log -/

/-- Statements can carry the texts of the action. -/
structure IsCarried (action : ValidAction) : Prop where
  podcast : IsBindable action.podcast ∧ IsWebUrl action.podcast
  episode : IsBindable action.episode
  guid : ∀ text ∈ action.guid, IsBindable text

/-- Of a valid action only the identifier must be one that can be carried, whatever the addresses. -/
theorem carried_of_validate {upload : ActionUpload} {action : ValidAction}
    (hvalidate : upload.validate = .ok action) (hguid : ∀ text ∈ upload.guid, IsBindable text) :
    IsCarried action := by
  obtain ⟨_, hpodcast, hepisode, haction⟩ := ActionUpload.reads_of_validate hvalidate
  refine ⟨⟨Web.bindable_of_canonical hpodcast, Web.web_url_of_canonical hpodcast⟩,
    Web.bindable_of_canonical hepisode, ?_⟩
  rw [haction]
  exact hguid

/-- Actions are valid, or fail for the user. -/
theorem validate_fails (upload : ActionUpload) :
    FailsOnly Failure.IsOfUser upload.validate := by
  have hkind : FailsOnly Failure.IsOfUser (ActionUpload.readKind upload.action) := by
    unfold ActionUpload.readKind
    split
    · exact fails_only_ok _
    · exact fails_only_error rfl
  have hfield (kind : ActionKind) (field : PlaybackField) (measure : Option Int) :
      FailsOnly Failure.IsOfUser (ActionUpload.validateField kind field measure) := by
    unfold ActionUpload.validateField
    split
    · exact fails_only_ok _
    · split
      · exact fails_only_error rfl
      · split
        · exact fails_only_error rfl
        · exact fails_only_ok _
  have hdevice : FailsOnly Failure.IsOfUser (ActionUpload.validateDevice upload.device) := by
    unfold ActionUpload.validateDevice
    split
    · exact fails_only_ok _
    · exact validate_name_fails
  have hurl (raw : String) (violation : Violation) :
      FailsOnly Failure.IsOfUser (ActionUpload.readUrl raw violation) := by
    unfold ActionUpload.readUrl
    split
    · exact fails_only_ok _
    · exact fails_only_error rfl
  exact hkind.bind fun _ _ => (hfield _ _ _).bind fun _ _ => (hfield _ _ _).bind fun _ _ =>
    (hfield _ _ _).bind fun _ _ => hdevice.bind fun _ _ => (hurl _ _).bind fun _ _ =>
    (hurl _ _).bind fun _ _ => fails_only_ok _

/-- An action is placed for any user there is if its texts can be carried. -/
theorem place_action_fails (huser : store.users.Has userId) {action : ValidAction}
    (hcarried : IsCarried action) :
    FailsOnly Failure.IsOfUser (store.placeAction userId action) := by
  have hdevice : FailsOnly Failure.IsOfUser (store.placeDevice userId action.device) := by
    unfold placeDevice
    split
    · exact fails_only_ok _
    · exact (register_any_device_fails huser).bind fun _ _ => fails_only_ok _
  refine hdevice.bind ?_
  rintro ⟨first, deviceId⟩ hplace
  obtain ⟨hfirst, _⟩ : Growth userId none store first ∧ _ := place_device_ok hplace
  have hpodcast : FailsOnly Failure.IsOfUser (first.insertPodcast userId action.podcast) := by
    have hfirstUser : first.users.Has userId := by rwa [hfirst.writes.users_eq]
    refine (require_fails ⟨hcarried.podcast.1, hcarried.podcast.2, hfirstUser⟩).bind fun _ _ => ?_
    split <;> exact fails_only_ok _
  refine hpodcast.bind ?_
  rintro ⟨second, podcast⟩ hinsert
  obtain ⟨_, ⟨entry, hmem, hid, _⟩⟩ : Growth userId none first second ∧ _ :=
    insert_podcast_ok hinsert
  have hepisode : FailsOnly Failure.IsOfUser
      (second.insertEpisode podcast.id action.episode action.guid) := by
    refine (require_fails ⟨hcarried.episode, hcarried.guid, entry, hmem, hid⟩).bind fun _ _ => ?_
    split <;> exact fails_only_ok _
  exact hepisode.bind fun _ _ => fails_only_ok _

/-- Actions are placed one after the other for any user there is. -/
theorem place_actions_fails (huser : store.users.Has userId) {actions : List ValidAction}
    (hcarried : ∀ action ∈ actions, IsCarried action) :
    FailsOnly Failure.IsOfUser (store.placeActions userId actions) := by
  induction actions generalizing store with
  | nil => exact fails_only_ok _
  | cons action actions ih =>
      obtain ⟨hfirst, hrest⟩ := List.forall_mem_cons.mp hcarried
      refine (place_action_fails huser hfirst).bind ?_
      rintro ⟨middle, row⟩ hplace
      obtain ⟨hgrowth, _⟩ : Growth userId none store middle ∧ _ := place_action_ok hplace
      refine (ih ?_ hrest).bind fun _ _ => fails_only_ok _
      rwa [hgrowth.writes.users_eq]

/-- Rows that were placed are accepted by the log if their times can be stored. -/
theorem accepts_placed {row : EpisodeAction} (hplaces : store.Places userId row)
    (hallows : row.kind.Allows row.measures) (htime : row.occurredAt.IsStorable) :
    store.AcceptsAction row := by
  obtain ⟨⟨podcast, hpodcast, hpodcastId, _⟩, ⟨episode, hepisode, hepisodeId, _⟩, hdevice⟩ :=
    hplaces
  refine ⟨⟨podcast, hpodcast, hpodcastId⟩, ⟨episode, hepisode, hepisodeId⟩, ?_, htime, ?_⟩
  · intro deviceId hid
    obtain ⟨device, hmem, hdeviceId, _⟩ := hdevice deviceId hid
    exact ⟨device, hmem, hdeviceId⟩
  · -- A measure that is given is one of a `play`.
    refine or_iff_not_imp_left.mpr fun hother => ?_
    have hnone : ∀ measure ∈ row.measures, measure = none := fun measure hmem =>
      Option.eq_none_iff_forall_ne_some.mpr fun number hnumber =>
        hother (hallows measure hmem number hnumber).1
    exact ⟨hnone _ (by simp [EpisodeAction.measures]), hnone _ (by simp [EpisodeAction.measures]),
      hnone _ (by simp [EpisodeAction.measures])⟩

/-- A batch of actions is stored if identifiers can be carried and times can be stored, whatever the
addresses. -/
theorem add_actions_fails (hconsistent : store.Consistent) (hname : IsBindable userName)
    {uploads : List ActionUpload}
    (hguids : ∀ upload ∈ uploads, ∀ text ∈ upload.guid, IsBindable text)
    (htimes : ∀ upload ∈ uploads, upload.timestamp.IsStorable) :
    FailsOnly Failure.IsOfUser (store.addActions userName uploads) := by
  refine (FailsOnly.mapM fun upload _ => validate_fails upload).bind fun actions hvalidate => ?_
  refine (load_user_fails hname).bind fun user hload => ?_
  have huser := has_of_load_user hload
  have hcarried : ∀ action ∈ actions, IsCarried action := by
    intro action hmem
    obtain ⟨upload, hupload, hvalid⟩ := validate_all_ok hvalidate action hmem
    exact carried_of_validate hvalid (hguids upload hupload)
  refine (place_actions_fails huser hcarried).bind ?_
  rintro ⟨placed, rows⟩ hplace
  have haccepts : ∀ row ∈ rows, placed.AcceptsAction row := by
    have hallowed : ∀ action ∈ actions,
        action.kind.Allows [action.started, action.position, action.total] := by
      intro action hmem
      obtain ⟨upload, _, hvalid⟩ := validate_all_ok hvalidate action hmem
      exact validate_ok hvalid
    obtain ⟨_, hplaced⟩ : Growth user.id none store placed ∧ _ := place_actions_ok hallowed hplace
    -- The time of a row is that of the action, which is that of the upload.
    have hsame : (∃ action ∈ actions, ¬action.timestamp.IsStorable) ↔
        ∃ row ∈ rows, ¬row.occurredAt.IsStorable :=
      exists_mem_iff (hconsistent.placed_actions huser hplace).stands
        fun action row hstands => by rw [hstands.occurredAt]
    intro row hmem
    obtain ⟨hplaces, hallows⟩ := hplaced row hmem
    refine accepts_placed hplaces hallows (Decidable.not_not.mp fun hnot => ?_)
    obtain ⟨action, haction, hrefused⟩ := hsame.mpr ⟨row, hmem, hnot⟩
    obtain ⟨upload, hupload, hvalid⟩ := validate_all_ok hvalidate action haction
    rw [(ActionUpload.reads_of_validate hvalid).others] at hrefused
    exact hrefused (htimes upload hupload)
  exact ((require_fails haccepts).bind fun _ _ => fails_only_ok _).bind
    fun _ _ => fails_only_ok _

/-! ## Settings -/

/-- Keys are read, or fail for the user. -/
theorem of_texts_fails (texts : KeyTexts) :
    FailsOnly Failure.IsOfUser (SettingsKey.ofTexts texts) := by
  have hpart (part : KeyPart) (text : Option String) :
      FailsOnly Failure.IsOfUser (SettingsKey.requirePart part text) := by
    unfold SettingsKey.requirePart
    split
    · split
      · exact fails_only_error rfl
      · exact fails_only_ok _
    · exact fails_only_error rfl
  have hscope : FailsOnly Failure.IsOfUser (SettingsKey.readScope texts.scope) := by
    unfold SettingsKey.readScope
    split
    · exact fails_only_ok _
    · exact fails_only_error rfl
  refine hscope.bind fun scope _ => ?_
  cases scope with
  | account => exact fails_only_ok _
  | device => exact (hpart _ _).bind fun _ _ => fails_only_ok _
  | episode => exact (hpart _ _).bind fun _ _ => (hpart _ _).bind fun _ _ => fails_only_ok _
  | podcast => exact (hpart _ _).bind fun _ _ => fails_only_ok _

/-- The texts of a key are some of those that it was read from. -/
theorem mem_texts_of_key {texts : KeyTexts} {key : SettingsKey}
    (hread : SettingsKey.ofTexts texts = .ok key) : ∀ text ∈ key.texts, text ∈ texts.texts := by
  have hpart {part : KeyPart} {given : Option String} {text : String}
      (hrequire : SettingsKey.requirePart part given = .ok text) : given = some text := by
    unfold SettingsKey.requirePart at hrequire
    split at hrequire
    · split at hrequire
      · cases hrequire
      · cases hrequire
        rfl
    · cases hrequire
  unfold KeyTexts.texts
  simp only [SettingsKey.ofTexts, bind_eq_ok_iff] at hread
  obtain ⟨scope, _, hread⟩ := hread
  cases scope with
  | account =>
      cases hread
      exact List.forall_mem_nil _
  | device =>
      obtain ⟨device, hdevice, hread⟩ := bind_eq_ok_iff.mp hread
      cases hread
      simp [SettingsKey.texts, hpart hdevice]
  | episode =>
      simp only [bind_eq_ok_iff] at hread
      obtain ⟨episode, hepisode, podcast, hpodcast, hread⟩ := hread
      cases hread
      simp [SettingsKey.texts, hpart hepisode, hpart hpodcast]
  | podcast =>
      obtain ⟨podcast, hpodcast, hread⟩ := bind_eq_ok_iff.mp hread
      cases hread
      simp [SettingsKey.texts, hpart hpodcast]

/-- A key of texts that can be carried is resolved, unless it names nothing. -/
theorem resolve_key_fails {key : SettingsKey} (hkey : ∀ text ∈ key.texts, IsBindable text) :
    FailsOnly Failure.IsOfUser (store.resolveKey userId key) := by
  have hpodcast (raw : String) : FailsOnly Failure.IsOfUser (store.resolvePodcast userId raw) := by
    refine (select_raw_podcast_fails raw).bind fun podcast? _ => ?_
    split
    · exact fails_only_ok _
    · exact fails_only_error rfl
  have hselect (podcastId : Int) {text : String} (htext : IsBindable text) :
      FailsOnly Failure.IsOfUser (store.selectEpisode podcastId text) :=
    (require_fails htext).bind fun _ _ => fails_only_ok _
  cases key with
  | account => exact fails_only_ok _
  | device name =>
      exact (load_device_fails (hkey name (by simp [SettingsKey.texts]))).bind
        fun _ _ => fails_only_ok _
  | podcast raw => exact (hpodcast raw).bind fun _ _ => fails_only_ok _
  | episode podcastRaw raw =>
      refine (hpodcast podcastRaw).bind fun podcast _ => ?_
      have hraw : FailsOnly Failure.IsOfUser (store.selectRawEpisode podcast.id raw) := by
        unfold selectRawEpisode
        split
        · next hcanonical => exact hselect _ (Web.bindable_of_canonical hcanonical)
        · exact fails_only_ok _
      have hepisode : FailsOnly Failure.IsOfUser (store.resolveEpisode podcast.id raw) := by
        refine hraw.bind fun found? _ => ?_
        split
        · exact fails_only_ok _
        · refine (hselect _ (hkey raw (by simp [SettingsKey.texts]))).bind fun episode? _ => ?_
          split
          · exact fails_only_ok _
          · exact fails_only_error rfl
      exact hepisode.bind fun _ _ => fails_only_ok _

/-- Assignments break no rule, or fail for the user. -/
theorem validate_assignments_fails (assignments : List (String × String)) (removals : List String) :
    FailsOnly Failure.IsOfUser (validateAssignments assignments removals) := by
  unfold validateAssignments
  dsimp only
  split
  · exact fails_only_error rfl
  · split
    · exact fails_only_error rfl
    · exact fails_only_ok _

variable {target : Target}

/-- Keys that are not empty are set for any user and target there are. -/
theorem assign_settings_fails (huser : store.users.Has userId) (htarget : store.HasTarget target)
    {assignments : List (String × String)}
    (htexts : ∀ assignment ∈ assignments,
      assignment.1 ≠ "" ∧ IsBindable assignment.1 ∧ IsBindable assignment.2) :
    FailsOnly Failure.IsOfUser (store.assignSettings userId target assignments) := by
  induction assignments generalizing store with
  | nil => exact fails_only_ok _
  | cons assignment rest ih =>
      obtain ⟨key, value⟩ := assignment
      obtain ⟨⟨hgiven, hkey, hvalue⟩, hrest⟩ := List.forall_mem_cons.mp htexts
      have hnext {change : String → Option String → Option String} {outcome : Except Failure Store}
          (hstep : ∃ next, outcome = .ok next ∧ Rebinds userId target change store next) :
          FailsOnly Failure.IsOfUser (outcome >>= (·.assignSettings userId target rest)) := by
        obtain ⟨next, rfl, hrebinds⟩ := hstep
        have hsettings := hrebinds.settings_only
        refine ih ?_ ?_ hrest
        · rw [hsettings]
          exact huser
        · rw [hsettings]
          exact htarget
      unfold assignSettings
      dsimp only
      split
      · exact hnext (remove_setting_rebinds hkey)
      · next hgivenValue =>
          exact hnext (upsert_setting_rebinds ⟨hgiven, hkey⟩ ⟨hgivenValue, hvalue⟩ huser htarget)

/-- Settings are saved if all texts can be carried, unless rules are broken or there is nothing that
the key names. -/
theorem save_settings_fails (hname : IsBindable userName) {key : SettingsKey}
    (hkey : ∀ text ∈ key.texts, IsBindable text) {assignments : List (String × String)}
    (hset : ∀ assignment ∈ assignments, IsBindable assignment.1 ∧ IsBindable assignment.2)
    {removals : List String} (hremoved : ∀ text ∈ removals, IsBindable text) :
    FailsOnly Failure.IsOfUser (store.saveSettings userName key assignments removals) := by
  refine (validate_assignments_fails assignments removals).bind fun _ hvalidate => ?_
  refine (load_user_fails hname).bind fun user hload => ?_
  have huser := has_of_load_user hload
  refine (resolve_key_fails hkey).bind fun resolved hresolve => ?_
  have htarget := (resolve_key_ok hresolve).has_target
  have hkeeps : ¬BreaksRules assignments removals := fun hbreaks => by
    obtain ⟨violation, hviolates⟩ := validate_assignments_of_breaks hbreaks
    rw [hviolates] at hvalidate
    cases hvalidate
  have hsorted : (assignments.mergeSort fun first second =>
      decide (first.1 ≤ second.1)).Perm assignments := List.mergeSort_perm _ _
  refine (assign_settings_fails huser htarget fun assignment hmem => ?_).bind fun assigned _ => ?_
  · have hmem := hsorted.mem_iff.mp hmem
    refine ⟨fun hempty => hkeeps (.inl (List.mem_map.mpr ⟨assignment, hmem, hempty⟩)), hset _ hmem⟩
  · obtain ⟨next, hremove, _⟩ : ∃ next,
        assigned.removeSettings user.id resolved.target removals = .ok next ∧ _ :=
      remove_settings_rebinds hremoved
    rw [hremove]
    exact fails_only_ok _

/-! ## Accounts and queries -/

/-- An account is created unless a rule is broken: a name that is taken is one of them. -/
theorem create_user_fails (password : String) (workFactor : Nat) :
    FailsOnly Failure.IsOfUser (store.createUser userName password workFactor) := by
  refine validate_name_fails.bind fun _ hvalid => ?_
  have hname : IsName userName := validateName_eq_ok_iff.mp hvalid
  split
  · exact fails_only_error rfl
  split
  · exact fails_only_error rfl
  split
  · exact fails_only_error rfl
  · next hfree =>
      have hnone : store.findUser? userName = none := by simpa using hfree
      exact (require_fails ⟨hname.1, hname.bindable, name_ne_of_find_user hnone⟩).bind
        fun _ _ => fails_only_ok _

/-- A device is destroyed by a name that can be carried, unless there is none. -/
theorem destroy_device_fails (huser : IsBindable userName) (hname : IsBindable name) :
    FailsOnly Failure.IsOfUser (store.destroyDevice userName name) :=
  (load_user_fails huser).bind fun _ _ => (load_device_fails hname).bind
    fun _ _ => fails_only_ok _

/-- What turned is listed for a device that there is, from a time on that can be stored. -/
theorem subscription_changes_fails (huser : IsBindable userName) (hname : IsBindable name)
    {since : Option Instant} (hsince : ∀ bound ∈ since, bound.IsStorable) :
    FailsOnly Failure.IsOfUser (store.subscriptionChanges userName name since) :=
  (load_user_fails huser).bind fun _ _ => (load_device_fails hname).bind fun _ _ =>
    (require_bound_fails hsince).bind fun _ _ => fails_only_ok _

/-- Subscriptions are listed from a time on that can be stored. -/
theorem subscriptions_fails (huser : IsBindable userName) {since : Option Instant}
    (hsince : ∀ bound ∈ since, bound.IsStorable) :
    FailsOnly Failure.IsOfUser (store.subscriptions userName since) :=
  (load_user_fails huser).bind fun _ _ => (require_bound_fails hsince).bind
    fun _ _ => fails_only_ok _

/-- Actions are listed unless the query names a device that there is none of. -/
theorem list_actions_fails (huser : IsBindable userName) {query : ActionQuery}
    (hdevice : ∀ text ∈ query.device, IsBindable text)
    (hsince : ∀ bound ∈ query.since, bound.IsStorable) :
    FailsOnly Failure.IsOfUser (store.listActions userName query) := by
  refine (load_user_fails huser).bind fun user _ => ?_
  have hleft : FailsOnly Failure.IsOfUser (store.queryDevice user.id query.device) := by
    unfold queryDevice
    split
    · exact fails_only_ok _
    · next text hgiven =>
        exact (load_device_fails (hdevice text hgiven)).bind fun _ _ => fails_only_ok _
  refine hleft.bind fun device _ => ?_
  cases query.podcast with
  | none => exact (require_bound_fails hsince).bind fun _ _ => fails_only_ok _
  | some raw =>
      refine ((select_raw_podcast_fails raw).map some).bind fun podcast _ => ?_
      dsimp only
      split
      · exact fails_only_ok _
      · exact (require_bound_fails hsince).bind fun _ _ => fails_only_ok _

/-- The last action of a podcast is found, or there is none. -/
theorem last_action_fails (huser : IsBindable userName) (podcast : String) (excludeDeleted : Bool) :
    FailsOnly Failure.IsOfUser (store.lastAction userName podcast excludeDeleted) := by
  refine (load_user_fails huser).bind fun user _ => ?_
  refine (select_raw_podcast_fails podcast).bind fun entry? _ => ?_
  split
  · exact fails_only_error rfl
  · dsimp only
    split
    · exact fails_only_ok _
    · exact fails_only_error rfl

/-! ## Requests -/

/-- If statements can carry the name of the user and the texts and times of the request, whatever the
addresses in uploads, the request fails only for the user: the store refuses nothing. -/
theorem answer_fails (hconsistent : store.Consistent) (hconstrained : store.Constrained)
    (huser : IsBindable userName) {request : Request}
    (htexts : ∀ text ∈ request.texts, IsBindable text)
    (htimes : ∀ time ∈ request.times, time.IsStorable) :
    FailsOnly Failure.IsOfUser (store.answer userName request) := by
  have hload : FailsOnly Failure.IsOfUser (store.loadUser userName) := load_user_fails huser
  cases request with
  | createUser password workFactor => exact (create_user_fails password workFactor).map _
  | loadUser => exact hload.map _
  | destroyUser => exact (hload.bind fun _ _ => fails_only_ok _).map _
  | registerDevice device =>
      exact (hload.bind fun user hfound =>
        register_any_device_fails (has_of_load_user hfound)).map _
  | updateDevice device caption kind =>
      have hcaption : ∀ text ∈ caption, IsBindable text := fun text hmem =>
        htexts text (by simp [Request.texts, Option.mem_def.mp hmem])
      exact (update_device_fails hconstrained huser hcaption).map _
  | findDevice device =>
      have hdevice : IsBindable device := htexts device (by simp [Request.texts])
      exact (hload.bind fun _ _ => select_device_fails hdevice).map _
  | listDevices => exact (hload.bind fun _ _ => fails_only_ok _).map _
  | destroyDevice device =>
      exact (destroy_device_fails huser (htexts device (by simp [Request.texts]))).map _
  | replaceSubscriptions device timestamp urls =>
      have htime : timestamp.IsStorable := htimes timestamp (by simp [Request.times])
      exact (replace_storable_subscriptions_fails huser htime device urls).map _
  | changeSubscriptions device timestamp add remove =>
      have htime : timestamp.IsStorable := htimes timestamp (by simp [Request.times])
      exact (change_storable_subscriptions_fails huser htime device add remove).map _
  | subscriptionChanges device since =>
      have hdevice : IsBindable device := htexts device (by simp [Request.texts])
      exact (subscription_changes_fails huser hdevice fun bound hmem =>
        htimes bound (Option.mem_toList.mpr hmem)).map _
  | subscriptions since =>
      exact (subscriptions_fails huser fun bound hmem =>
        htimes bound (Option.mem_toList.mpr hmem)).map _
  | findPodcast url =>
      have hurl : IsBindable url := htexts url (by simp [Request.texts])
      exact (hload.bind fun _ _ => (require_fails hurl).bind fun _ _ => fails_only_ok _).map _
  | addActions uploads =>
      refine (add_actions_fails hconsistent huser (fun upload hmem text htext => ?_)
        fun upload hmem => htimes _ (List.mem_map.mpr ⟨upload, hmem, rfl⟩)).map _
      refine htexts text (List.mem_flatMap.mpr ⟨upload, hmem, ?_⟩)
      simp [ActionUpload.texts, Option.mem_def.mp htext]
  | listActions query =>
      refine (list_actions_fails huser (fun text hmem => ?_) fun bound hmem =>
        htimes bound (Option.mem_toList.mpr hmem)).map _
      exact htexts text (by simp [Request.texts, Option.mem_def.mp hmem])
  | lastAction podcast excludeDeleted =>
      exact (last_action_fails huser podcast excludeDeleted).map _
  | favorites => exact (hload.bind fun _ _ => fails_only_ok _).map _
  | resolveKey texts =>
      refine ((of_texts_fails texts).bind fun key hread => hload.bind fun _ _ => ?_).map _
      exact resolve_key_fails fun text hmem => htexts text (mem_texts_of_key hread text hmem)
  | getSettings texts =>
      refine ((of_texts_fails texts).bind fun key hread => hload.bind fun _ _ => ?_).map _
      have hkey : ∀ text ∈ key.texts, IsBindable text := fun text hmem =>
        htexts text (mem_texts_of_key hread text hmem)
      exact (resolve_key_fails hkey).bind fun _ _ => fails_only_ok _
  | saveSettings texts assignments removals =>
      refine ((of_texts_fails texts).bind fun key hread => ?_).map _
      have hset : ∀ assignment ∈ assignments, ∀ text ∈ [assignment.1, assignment.2],
          IsBindable text := by
        intro assignment hmem text htext
        have hgiven : text ∈ assignments.flatMap fun assignment => [assignment.1, assignment.2] :=
          List.mem_flatMap.mpr ⟨assignment, hmem, htext⟩
        exact htexts text (List.mem_append_left _ (List.mem_append_right _ hgiven))
      refine save_settings_fails huser (fun text hmem => ?_) (fun assignment hmem =>
          ⟨hset assignment hmem _ (by simp), hset assignment hmem _ (by simp)⟩)
        fun text hmem => htexts text (List.mem_append_right _ hmem)
      have hgiven := mem_texts_of_key hread text hmem
      exact htexts text (List.mem_append_left _ (List.mem_append_left _ hgiven))

end Store

end PodcastLedger
