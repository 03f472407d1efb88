import PodcastLedger.Proofs.Ledger.Deletion
import PodcastLedger.Proofs.Settings.Statements

/-!
# Constraints of the schema

What the schema of the store demands of the rows: `Store.Constrained` lists every check, every
reference and every unique index. For each kind of change there is one lemma. An insertion meets the
constraints exactly if the new row does (such as `Store.Constrained.insert_device_iff`), changes
that keep keys and checks meet them, and so does every deletion, since what refers to deleted rows
goes with them (such as `Store.Constrained.delete_users`).
-/

namespace PodcastLedger

/-! ## Rows -/

/-- A user has a name. -/
def User.Checked (user : User) : Prop :=
  user.name ≠ ""

/-- The check of a user looks at one text. -/
instance (user : User) : Decidable user.Checked :=
  inferInstanceAs (Decidable (_ ≠ _))

/-- A device has a name and one of the known kinds, and no text has the null character, a caption
neither. -/
def Device.Checked (device : Device) : Prop :=
  device.name ≠ "" ∧ IsBindable device.caption ∧
    device.kind.name ∈ ["desktop", "laptop", "mobile", "server", "other"]

/-- The check of a device looks at its texts. -/
instance (device : Device) : Decidable device.Checked :=
  inferInstanceAs (Decidable (_ ∧ _))

/-- A podcast has the address of a web page. -/
def Podcast.Checked (podcast : Podcast) : Prop :=
  IsWebUrl podcast.url

/-- The check of a podcast looks at its address. -/
instance (podcast : Podcast) : Decidable podcast.Checked :=
  inferInstanceAs (Decidable (IsWebUrl _))

/-- An action is of one of the known kinds, and has measures of playback only if it is a `play`. -/
def EpisodeAction.Checked (action : EpisodeAction) : Prop :=
  action.kind.name ∈ ["download", "delete", "play", "new", "flattr"] ∧
    (action.kind.name = "play" ∨
      action.position = none ∧ action.started = none ∧ action.total = none)

/-- The check of an action looks at its kind and its measures. -/
instance (action : EpisodeAction) : Decidable action.Checked :=
  inferInstanceAs (Decidable (_ ∧ _))

/-- A setting has a key and a value, and of the references those that its scope calls for. -/
def Setting.Checked (setting : Setting) : Prop :=
  setting.key ≠ "" ∧ setting.value ≠ "" ∧
    (setting.target.scope.name = "account" ∧ setting.target.device? = none ∧
        setting.target.podcast? = none ∧ setting.target.episode? = none ∨
      setting.target.scope.name = "device" ∧ setting.target.device? ≠ none ∧
        setting.target.podcast? = none ∧ setting.target.episode? = none ∨
      setting.target.scope.name = "podcast" ∧ setting.target.device? = none ∧
        setting.target.podcast? ≠ none ∧ setting.target.episode? = none ∨
      setting.target.scope.name = "episode" ∧ setting.target.device? = none ∧
        setting.target.podcast? ≠ none ∧ setting.target.episode? ≠ none)

/-- The check of a setting looks at its columns. -/
instance (setting : Setting) : Decidable setting.Checked :=
  inferInstanceAs (Decidable (_ ∧ _))

/-- The kind of a device is always a known one. -/
theorem Device.checked_iff {device : Device} :
    device.Checked ↔ device.name ≠ "" ∧ IsBindable device.caption := by
  have hkind (kind : DeviceKind) :
      kind.name ∈ ["desktop", "laptop", "mobile", "server", "other"] := by
    cases kind <;> decide
  exact and_congr_right fun _ => and_iff_left (hkind device.kind)

/-- The kind of an action is always a known one. -/
theorem EpisodeAction.checked_iff {action : EpisodeAction} :
    action.Checked ↔ action.kind = .play ∨
      action.started = none ∧ action.position = none ∧ action.total = none := by
  have hkind : action.kind.name ∈ ["download", "delete", "play", "new", "flattr"] ∧
      (action.kind.name = "play" ↔ action.kind = .play) := by
    cases action.kind <;> decide
  unfold EpisodeAction.Checked
  rw [and_iff_right hkind.1, hkind.2]
  tauto

/-- The references of a setting are always those that its scope calls for. -/
theorem Setting.checked_iff {setting : Setting} :
    setting.Checked ↔ setting.key ≠ "" ∧ setting.value ≠ "" := by
  obtain ⟨_, target, _, _⟩ := setting
  refine and_congr_right fun _ => and_iff_left ?_
  cases target <;> simp [Target.scope, Scope.name, Target.device?, Target.podcast?, Target.episode?]

namespace Table

variable {Row Key : Type} {table : Table Row}

/-- A condition on all rows is looked at row by row. -/
instance (holds : Row → Prop) [DecidablePred holds] : Decidable (table.All holds) :=
  inferInstanceAs (Decidable (∀ entry ∈ table.entries, holds entry.row))

/-- A key is unique if no two rows have the same. -/
instance [DecidableEq Key] (key : Row → Key) : Decidable (table.UniqueBy key) :=
  inferInstanceAs (Decidable (List.Nodup _))

/-- A row that is not removed is there. -/
theorem Has.remove {id : Int} {condition : Entry Row → Bool} (hhas : table.Has id)
    (hkept : Store.deletes table condition id = false) : (table.remove condition).Has id := by
  obtain ⟨entry, hmem, rfl⟩ := hhas
  refine ⟨entry, mem_remove.mpr ⟨hmem, Bool.eq_false_iff.mpr fun hgone => ?_⟩, rfl⟩
  rw [Store.deletes_eq_true_iff.mpr ⟨entry, hmem, hgone, rfl⟩] at hkept
  cases hkept

end Table

namespace Store

/-- What a row of the log refers to is there. -/
def ActionRefers (store : Store) (action : EpisodeAction) : Prop :=
  store.podcasts.Has action.podcastId ∧ store.episodes.Has action.episodeId ∧
    ∀ deviceId ∈ action.deviceId, store.devices.Has deviceId

/-- What an action refers to is looked up in three tables. -/
instance (store : Store) (action : EpisodeAction) : Decidable (store.ActionRefers action) :=
  inferInstanceAs (Decidable (_ ∧ _))

/-- What a setting refers to is there. -/
def SettingRefers (store : Store) (setting : Setting) : Prop :=
  store.users.Has setting.userId ∧ store.HasTarget setting.target

/-- What a setting refers to is looked up by its columns. -/
instance (store : Store) (setting : Setting) : Decidable (store.SettingRefers setting) :=
  inferInstanceAs (Decidable (_ ∧ _))

/-- The rows meet the constraints of the schema. -/
structure Constrained (store : Store) : Prop where
  users_checked : store.users.All User.Checked
  users_unique : store.users.UniqueBy User.name
  devices_checked : store.devices.All Device.Checked
  devices_refer : store.devices.All fun device => store.users.Has device.userId
  devices_unique : store.devices.UniqueBy fun device => (device.userId, device.name)
  podcasts_checked : store.podcasts.All Podcast.Checked
  podcasts_refer : store.podcasts.All fun podcast => store.users.Has podcast.userId
  podcasts_unique : store.podcasts.UniqueBy fun podcast => (podcast.userId, podcast.url)
  episodes_refer : store.episodes.All fun episode => store.podcasts.Has episode.podcastId
  episodes_unique : store.episodes.UniqueBy fun episode => (episode.podcastId, episode.url)
  actions_checked : store.actions.All EpisodeAction.Checked
  actions_refer : store.actions.All store.ActionRefers
  settings_checked : store.settings.All Setting.Checked
  settings_refer : store.settings.All store.SettingRefers
  settings_unique : store.settings.UniqueBy Setting.indexed

/-- The constraints are looked at table by table. -/
instance (store : Store) : Decidable store.Constrained :=
  decidable_of_iff
    (((store.users.All User.Checked ∧ store.users.UniqueBy User.name) ∧
      (store.devices.All Device.Checked ∧
        (store.devices.All fun device => store.users.Has device.userId) ∧
        store.devices.UniqueBy fun device => (device.userId, device.name)) ∧
      (store.podcasts.All Podcast.Checked ∧
        (store.podcasts.All fun podcast => store.users.Has podcast.userId) ∧
        store.podcasts.UniqueBy fun podcast => (podcast.userId, podcast.url))) ∧
      ((store.episodes.All fun episode => store.podcasts.Has episode.podcastId) ∧
        store.episodes.UniqueBy fun episode => (episode.podcastId, episode.url)) ∧
      (store.actions.All EpisodeAction.Checked ∧ store.actions.All store.ActionRefers) ∧
      store.settings.All Setting.Checked ∧ store.settings.All store.SettingRefers ∧
        store.settings.UniqueBy Setting.indexed)
    ⟨fun ⟨⟨⟨h₁, h₂⟩, ⟨h₃, h₄, h₅⟩, h₆, h₇, h₈⟩, ⟨h₉, h₁₀⟩, ⟨h₁₁, h₁₂⟩, h₁₃, h₁₄, h₁₅⟩ =>
      ⟨h₁, h₂, h₃, h₄, h₅, h₆, h₇, h₈, h₉, h₁₀, h₁₁, h₁₂, h₁₃, h₁₄, h₁₅⟩,
    fun ⟨h₁, h₂, h₃, h₄, h₅, h₆, h₇, h₈, h₉, h₁₀, h₁₁, h₁₂, h₁₃, h₁₄, h₁₅⟩ =>
      ⟨⟨⟨h₁, h₂⟩, ⟨h₃, h₄, h₅⟩, h₆, h₇, h₈⟩, ⟨h₉, h₁₀⟩, ⟨h₁₁, h₁₂⟩, h₁₃, h₁₄, h₁₅⟩⟩

variable {store next : Store}

/-- The store without rows meets the constraints. -/
theorem constrained_empty : Store.empty.Constrained := by
  constructor <;> simp [Store.empty, Table.All, Table.UniqueBy]

/-- The ids that there are, are there still. -/
structure KeepsIds (store next : Store) : Prop where
  users : ∀ {id}, store.users.Has id → next.users.Has id
  devices : ∀ {id}, store.devices.Has id → next.devices.Has id
  podcasts : ∀ {id}, store.podcasts.Has id → next.podcasts.Has id
  episodes : ∀ {id}, store.episodes.Has id → next.episodes.Has id

/-- A store keeps its own ids. -/
theorem KeepsIds.refl (store : Store) : store.KeepsIds store :=
  ⟨id, id, id, id⟩

/-- What is kept twice is kept. -/
theorem KeepsIds.trans {middle : Store} (hfirst : store.KeepsIds middle)
    (hsecond : middle.KeepsIds next) : store.KeepsIds next where
  users h := hsecond.users (hfirst.users h)
  devices h := hsecond.devices (hfirst.devices h)
  podcasts h := hsecond.podcasts (hfirst.podcasts h)
  episodes h := hsecond.episodes (hfirst.episodes h)

/-- What actions refer to is there while no id goes. -/
theorem Constrained.actions_refer_of_keeps (hconstrained : store.Constrained)
    (hkeeps : store.KeepsIds next) : store.actions.All next.ActionRefers :=
  hconstrained.actions_refer.mono fun _ ⟨hpodcast, hepisode, hdevice⟩ =>
    ⟨hkeeps.podcasts hpodcast, hkeeps.episodes hepisode, fun deviceId hmem =>
      hkeeps.devices (hdevice deviceId hmem)⟩

/-- What settings refer to is there while no id goes. -/
theorem Constrained.settings_refer_of_keeps (hconstrained : store.Constrained)
    (hkeeps : store.KeepsIds next) : store.settings.All next.SettingRefers :=
  hconstrained.settings_refer.mono fun _ ⟨huser, hdevice, hpodcast, hepisode⟩ =>
    ⟨hkeeps.users huser, fun id hmem => hkeeps.devices (hdevice id hmem),
      fun id hmem => hkeeps.podcasts (hpodcast id hmem),
      fun id hmem => hkeeps.episodes (hepisode id hmem)⟩

/-! ## Insertions -/

/-- A user may be inserted exactly if the row is checked and its name is new. -/
theorem Constrained.insert_user_iff (hconstrained : store.Constrained) {user : User} :
    Constrained { store with users := store.users.insert user } ↔
      user.Checked ∧ ∀ other ∈ store.users.entries, other.row.name ≠ user.name := by
  constructor
  · intro hnext
    exact ⟨(Table.all_insert_iff.mp hnext.users_checked).2,
      (Table.unique_by_insert_iff.mp hnext.users_unique).2⟩
  · rintro ⟨hchecked, hnew⟩
    have hkeeps : store.KeepsIds { store with users := store.users.insert user } :=
      ⟨fun hhas => hhas.insert user, id, id, id⟩
    exact { hconstrained with
      users_checked := hconstrained.users_checked.insert hchecked
      users_unique := hconstrained.users_unique.insert hnew
      devices_refer := hconstrained.devices_refer.mono fun _ => hkeeps.users
      podcasts_refer := hconstrained.podcasts_refer.mono fun _ => hkeeps.users
      actions_refer := hconstrained.actions_refer_of_keeps hkeeps
      settings_refer := hconstrained.settings_refer_of_keeps hkeeps }

/-- A device may be inserted exactly if the row is checked, its user is there and its name is new
for the user. -/
theorem Constrained.insert_device_iff (hconstrained : store.Constrained) {device : Device} :
    Constrained { store with devices := store.devices.insert device } ↔
      device.Checked ∧ store.users.Has device.userId ∧
        ∀ other ∈ store.devices.entries,
          (other.row.userId, other.row.name) ≠ (device.userId, device.name) := by
  constructor
  · intro hnext
    exact ⟨(Table.all_insert_iff.mp hnext.devices_checked).2,
      (Table.all_insert_iff.mp hnext.devices_refer).2,
      (Table.unique_by_insert_iff.mp hnext.devices_unique).2⟩
  · rintro ⟨hchecked, huser, hnew⟩
    have hkeeps : store.KeepsIds { store with devices := store.devices.insert device } :=
      ⟨id, fun hhas => hhas.insert device, id, id⟩
    exact { hconstrained with
      devices_checked := hconstrained.devices_checked.insert hchecked
      devices_refer := hconstrained.devices_refer.insert huser
      devices_unique := hconstrained.devices_unique.insert hnew
      actions_refer := hconstrained.actions_refer_of_keeps hkeeps
      settings_refer := hconstrained.settings_refer_of_keeps hkeeps }

/-- A podcast may be inserted exactly if the row is checked, its user is there and its address is
new for the user. -/
theorem Constrained.insert_podcast_iff (hconstrained : store.Constrained) {podcast : Podcast} :
    Constrained { store with podcasts := store.podcasts.insert podcast } ↔
      podcast.Checked ∧ store.users.Has podcast.userId ∧
        ∀ other ∈ store.podcasts.entries,
          (other.row.userId, other.row.url) ≠ (podcast.userId, podcast.url) := by
  constructor
  · intro hnext
    exact ⟨(Table.all_insert_iff.mp hnext.podcasts_checked).2,
      (Table.all_insert_iff.mp hnext.podcasts_refer).2,
      (Table.unique_by_insert_iff.mp hnext.podcasts_unique).2⟩
  · rintro ⟨hchecked, huser, hnew⟩
    have hkeeps : store.KeepsIds { store with podcasts := store.podcasts.insert podcast } :=
      ⟨id, id, fun hhas => hhas.insert podcast, id⟩
    exact { hconstrained with
      podcasts_checked := hconstrained.podcasts_checked.insert hchecked
      podcasts_refer := hconstrained.podcasts_refer.insert huser
      podcasts_unique := hconstrained.podcasts_unique.insert hnew
      episodes_refer := hconstrained.episodes_refer.mono fun _ => hkeeps.podcasts
      actions_refer := hconstrained.actions_refer_of_keeps hkeeps
      settings_refer := hconstrained.settings_refer_of_keeps hkeeps }

/-- An episode may be inserted exactly if its podcast is there and its address is new for the
podcast. -/
theorem Constrained.insert_episode_iff (hconstrained : store.Constrained) {episode : Episode} :
    Constrained { store with episodes := store.episodes.insert episode } ↔
      store.podcasts.Has episode.podcastId ∧
        ∀ other ∈ store.episodes.entries,
          (other.row.podcastId, other.row.url) ≠ (episode.podcastId, episode.url) := by
  constructor
  · intro hnext
    exact ⟨(Table.all_insert_iff.mp hnext.episodes_refer).2,
      (Table.unique_by_insert_iff.mp hnext.episodes_unique).2⟩
  · rintro ⟨hpodcast, hnew⟩
    have hkeeps : store.KeepsIds { store with episodes := store.episodes.insert episode } :=
      ⟨id, id, id, fun hhas => hhas.insert episode⟩
    exact { hconstrained with
      episodes_refer := hconstrained.episodes_refer.insert hpodcast
      episodes_unique := hconstrained.episodes_unique.insert hnew
      actions_refer := hconstrained.actions_refer_of_keeps hkeeps
      settings_refer := hconstrained.settings_refer_of_keeps hkeeps }

/-- The log may be another one exactly if its rows are checked and what they refer to is there:
nothing refers to them. -/
theorem Constrained.with_actions_iff (hconstrained : store.Constrained)
    {actions : Table EpisodeAction} :
    Constrained { store with actions } ↔
      actions.All EpisodeAction.Checked ∧ actions.All store.ActionRefers := by
  constructor
  · intro hnext
    exact ⟨hnext.actions_checked, hnext.actions_refer⟩
  · rintro ⟨hchecked, hrefers⟩
    exact { hconstrained with actions_checked := hchecked, actions_refer := hrefers }

/-- A setting may be inserted exactly if the row is checked, what it refers to is there, and its
place in the index is free. -/
theorem Constrained.insert_setting_iff (hconstrained : store.Constrained) {setting : Setting} :
    Constrained { store with settings := store.settings.insert setting } ↔
      setting.Checked ∧ store.SettingRefers setting ∧
        ∀ other ∈ store.settings.entries, other.row.indexed ≠ setting.indexed := by
  constructor
  · intro hnext
    exact ⟨(Table.all_insert_iff.mp hnext.settings_checked).2,
      (Table.all_insert_iff.mp hnext.settings_refer).2,
      (Table.unique_by_insert_iff.mp hnext.settings_unique).2⟩
  · rintro ⟨hchecked, hrefers, hnew⟩
    exact { hconstrained with
      settings_checked := hconstrained.settings_checked.insert hchecked
      settings_refer := hconstrained.settings_refer.insert hrefers
      settings_unique := hconstrained.settings_unique.insert hnew }

/-! ## Changes -/

/-- Devices may be described in other ways, with captions that can be carried. -/
theorem Constrained.describe_devices (hconstrained : store.Constrained)
    (condition : Entry Device → Bool) {caption : String} (hcaption : IsBindable caption)
    (kind : DeviceKind) :
    Constrained
      { store with
        devices := store.devices.modify condition fun row => { row with caption, kind } } := by
  have hkeeps : store.KeepsIds
      { store with
        devices := store.devices.modify condition fun row => { row with caption, kind } } :=
    ⟨id, fun hhas => hhas.modify _ _, id, id⟩
  exact { hconstrained with
    devices_checked := hconstrained.devices_checked.modify _ fun _ hchecked =>
      Device.checked_iff.mpr ⟨(Device.checked_iff.mp hchecked).1, hcaption⟩
    devices_refer := hconstrained.devices_refer.modify _ fun _ => id
    devices_unique := hconstrained.devices_unique.modify _ fun _ => rfl
    actions_refer := hconstrained.actions_refer_of_keeps hkeeps
    settings_refer := hconstrained.settings_refer_of_keeps hkeeps }

/-- Podcasts may be written to either side as of any time. -/
theorem Constrained.side_podcasts (hconstrained : store.Constrained)
    (condition : Entry Podcast → Bool) (subscribed : Bool) (updatedAt : Instant) :
    Constrained
      { store with
        podcasts :=
          store.podcasts.modify condition fun row => { row with subscribed, updatedAt } } := by
  have hkeeps : store.KeepsIds
      { store with
        podcasts :=
          store.podcasts.modify condition fun row => { row with subscribed, updatedAt } } :=
    ⟨id, id, fun hhas => hhas.modify _ _, id⟩
  exact { hconstrained with
    podcasts_checked := hconstrained.podcasts_checked.modify _ fun _ => id
    podcasts_refer := hconstrained.podcasts_refer.modify _ fun _ => id
    podcasts_unique := hconstrained.podcasts_unique.modify _ fun _ => rfl
    episodes_refer := hconstrained.episodes_refer.mono fun _ => hkeeps.podcasts
    actions_refer := hconstrained.actions_refer_of_keeps hkeeps
    settings_refer := hconstrained.settings_refer_of_keeps hkeeps }

/-- Episodes may be given any identifier. -/
theorem Constrained.name_episodes (hconstrained : store.Constrained)
    (condition : Entry Episode → Bool) (guid : Option String) :
    Constrained
      { store with
        episodes := store.episodes.modify condition fun row => { row with guid } } := by
  have hkeeps : store.KeepsIds
      { store with episodes := store.episodes.modify condition fun row => { row with guid } } :=
    ⟨id, id, id, fun hhas => hhas.modify _ _⟩
  exact { hconstrained with
    episodes_refer := hconstrained.episodes_refer.modify _ fun _ => id
    episodes_unique := hconstrained.episodes_unique.modify _ fun _ => rfl
    actions_refer := hconstrained.actions_refer_of_keeps hkeeps
    settings_refer := hconstrained.settings_refer_of_keeps hkeeps }

/-- Actions may be detached from their devices. -/
theorem Constrained.detach_actions (hconstrained : store.Constrained)
    (condition : Entry EpisodeAction → Bool) :
    Constrained
      { store with
        actions := store.actions.modify condition fun action => { action with deviceId := none } } :=
  hconstrained.with_actions_iff.mpr
    ⟨hconstrained.actions_checked.modify _ fun _ => id,
      hconstrained.actions_refer.modify _ fun _ ⟨hpodcast, hepisode, _⟩ =>
        ⟨hpodcast, hepisode, nofun⟩⟩

/-- Settings may be given any value that is not empty. -/
theorem Constrained.value_settings (hconstrained : store.Constrained)
    (condition : Entry Setting → Bool) {value : String} (hvalue : value ≠ "") :
    Constrained
      { store with
        settings := store.settings.modify condition fun setting => { setting with value } } :=
  { hconstrained with
    settings_checked := hconstrained.settings_checked.modify _ fun _ hchecked =>
      Setting.checked_iff.mpr ⟨(Setting.checked_iff.mp hchecked).1, hvalue⟩
    settings_refer := hconstrained.settings_refer.modify _ fun _ => id
    settings_unique := hconstrained.settings_unique.modify _ fun _ => rfl }

/-! ## Removals -/

/-- Actions may go: nothing refers to them. -/
theorem Constrained.remove_actions (hconstrained : store.Constrained)
    (condition : Entry EpisodeAction → Bool) :
    Constrained { store with actions := store.actions.remove condition } :=
  hconstrained.with_actions_iff.mpr
    ⟨hconstrained.actions_checked.remove _, hconstrained.actions_refer.remove _⟩

/-- Settings may go: nothing refers to them. -/
theorem Constrained.remove_settings (hconstrained : store.Constrained)
    (condition : Entry Setting → Bool) :
    Constrained { store with settings := store.settings.remove condition } :=
  { hconstrained with
    settings_checked := hconstrained.settings_checked.remove _
    settings_refer := hconstrained.settings_refer.remove _
    settings_unique := hconstrained.settings_unique.remove _ }

/-- Episodes may go that no action and no setting refers to. -/
theorem Constrained.remove_episodes (hconstrained : store.Constrained)
    {condition : Entry Episode → Bool}
    (hactions : ∀ action ∈ store.actions.entries,
      deletes store.episodes condition action.row.episodeId = false)
    (hsettings : ∀ setting ∈ store.settings.entries,
      setting.row.target.episode?.any (deletes store.episodes condition) = false) :
    Constrained { store with episodes := store.episodes.remove condition } := by
  refine { hconstrained with
    episodes_refer := hconstrained.episodes_refer.remove _
    episodes_unique := hconstrained.episodes_unique.remove _
    actions_refer := fun action hmem => ?_
    settings_refer := fun setting hmem => ?_ }
  · obtain ⟨hpodcast, hepisode, hdevice⟩ := hconstrained.actions_refer action hmem
    exact ⟨hpodcast, hepisode.remove (hactions action hmem), hdevice⟩
  · obtain ⟨huser, hdevice, hpodcast, hepisode⟩ := hconstrained.settings_refer setting hmem
    exact ⟨huser, hdevice, hpodcast, fun id hid =>
      (hepisode id hid).remove (eq_false_of_any_deletes (hsettings setting hmem) id hid)⟩

/-- Podcasts may go that no episode, no action and no setting refers to. -/
theorem Constrained.remove_podcasts (hconstrained : store.Constrained)
    {condition : Entry Podcast → Bool}
    (hepisodes : ∀ episode ∈ store.episodes.entries,
      deletes store.podcasts condition episode.row.podcastId = false)
    (hactions : ∀ action ∈ store.actions.entries,
      deletes store.podcasts condition action.row.podcastId = false)
    (hsettings : ∀ setting ∈ store.settings.entries,
      setting.row.target.podcast?.any (deletes store.podcasts condition) = false) :
    Constrained { store with podcasts := store.podcasts.remove condition } := by
  refine { hconstrained with
    podcasts_checked := hconstrained.podcasts_checked.remove _
    podcasts_refer := hconstrained.podcasts_refer.remove _
    podcasts_unique := hconstrained.podcasts_unique.remove _
    episodes_refer := fun episode hmem => ?_
    actions_refer := fun action hmem => ?_
    settings_refer := fun setting hmem => ?_ }
  · exact (hconstrained.episodes_refer episode hmem).remove (hepisodes episode hmem)
  · obtain ⟨hpodcast, hepisode, hdevice⟩ := hconstrained.actions_refer action hmem
    exact ⟨hpodcast.remove (hactions action hmem), hepisode, hdevice⟩
  · obtain ⟨huser, hdevice, hpodcast, hepisode⟩ := hconstrained.settings_refer setting hmem
    exact ⟨huser, hdevice, fun id hid => (hpodcast id hid).remove
      (eq_false_of_any_deletes (hsettings setting hmem) id hid), hepisode⟩

/-- Devices may go that no action and no setting refers to. -/
theorem Constrained.remove_devices (hconstrained : store.Constrained)
    {condition : Entry Device → Bool}
    (hactions : ∀ action ∈ store.actions.entries,
      action.row.deviceId.any (deletes store.devices condition) = false)
    (hsettings : ∀ setting ∈ store.settings.entries,
      setting.row.target.device?.any (deletes store.devices condition) = false) :
    Constrained { store with devices := store.devices.remove condition } := by
  refine { hconstrained with
    devices_checked := hconstrained.devices_checked.remove _
    devices_refer := hconstrained.devices_refer.remove _
    devices_unique := hconstrained.devices_unique.remove _
    actions_refer := fun action hmem => ?_
    settings_refer := fun setting hmem => ?_ }
  · obtain ⟨hpodcast, hepisode, hdevice⟩ := hconstrained.actions_refer action hmem
    exact ⟨hpodcast, hepisode, fun id hid => (hdevice id hid).remove
      (eq_false_of_any_deletes (hactions action hmem) id hid)⟩
  · obtain ⟨huser, hdevice, hpodcast, hepisode⟩ := hconstrained.settings_refer setting hmem
    exact ⟨huser, fun id hid => (hdevice id hid).remove
      (eq_false_of_any_deletes (hsettings setting hmem) id hid), hpodcast, hepisode⟩

/-- Users may go that no device, no podcast and no setting refers to. -/
theorem Constrained.remove_users (hconstrained : store.Constrained)
    {condition : Entry User → Bool}
    (hdevices : ∀ device ∈ store.devices.entries,
      deletes store.users condition device.row.userId = false)
    (hpodcasts : ∀ podcast ∈ store.podcasts.entries,
      deletes store.users condition podcast.row.userId = false)
    (hsettings : ∀ setting ∈ store.settings.entries,
      deletes store.users condition setting.row.userId = false) :
    Constrained { store with users := store.users.remove condition } := by
  refine { hconstrained with
    users_checked := hconstrained.users_checked.remove _
    users_unique := hconstrained.users_unique.remove _
    devices_refer := fun device hmem => ?_
    podcasts_refer := fun podcast hmem => ?_
    settings_refer := fun setting hmem => ?_ }
  · exact (hconstrained.devices_refer device hmem).remove (hdevices device hmem)
  · exact (hconstrained.podcasts_refer podcast hmem).remove (hpodcasts podcast hmem)
  · obtain ⟨huser, htarget⟩ := hconstrained.settings_refer setting hmem
    exact ⟨huser.remove (hsettings setting hmem), htarget⟩

/-! ## Deletions

What refers to deleted rows goes first, so that nothing refers to them when they go. -/

/-- Settings may be deleted. -/
theorem Constrained.delete_settings (hconstrained : store.Constrained)
    (condition : Entry Setting → Bool) : (store.deleteSettings condition).Constrained :=
  hconstrained.remove_settings condition

/-- Actions may be deleted. -/
theorem Constrained.delete_actions (hconstrained : store.Constrained)
    (condition : Entry EpisodeAction → Bool) : (store.deleteActions condition).Constrained :=
  hconstrained.remove_actions condition

/-- Episodes may be deleted. -/
theorem Constrained.delete_episodes (hconstrained : store.Constrained)
    (condition : Entry Episode → Bool) : (store.deleteEpisodes condition).Constrained := by
  have hdependent := (hconstrained.remove_settings fun setting =>
      setting.row.target.episode?.any (deletes store.episodes condition)).remove_actions
    fun action => deletes store.episodes condition action.row.episodeId
  exact hdependent.remove_episodes (fun _ hmem => (Table.mem_remove.mp hmem).2)
    fun _ hmem => (Table.mem_remove.mp hmem).2

/-- Podcasts may be deleted. -/
theorem Constrained.delete_podcasts (hconstrained : store.Constrained)
    (condition : Entry Podcast → Bool) : (store.deletePodcasts condition).Constrained := by
  have hrest := hconstrained.delete_episodes fun episode =>
    deletes store.podcasts condition episode.row.podcastId
  have hdependent := (hrest.remove_settings fun setting =>
      setting.row.target.podcast?.any (deletes store.podcasts condition)).remove_actions
    fun action => deletes store.podcasts condition action.row.podcastId
  exact hdependent.remove_podcasts (fun _ hmem => (Table.mem_remove.mp hmem).2)
    (fun _ hmem => (Table.mem_remove.mp hmem).2) fun _ hmem => (Table.mem_remove.mp hmem).2

/-- Devices may be deleted. -/
theorem Constrained.delete_devices (hconstrained : store.Constrained)
    (condition : Entry Device → Bool) : (store.deleteDevices condition).Constrained := by
  have hdependent := (hconstrained.remove_settings fun setting =>
      setting.row.target.device?.any (deletes store.devices condition)).detach_actions
    fun action => action.row.deviceId.any (deletes store.devices condition)
  refine hdependent.remove_devices (fun action hmem => ?_)
    fun _ hmem => (Table.mem_remove.mp hmem).2
  obtain ⟨old, _, rfl⟩ := Table.mem_modify.mp hmem
  split
  · rfl
  · next hkept => exact Bool.eq_false_iff.mpr hkept

/-- Users may be deleted. -/
theorem Constrained.delete_users (hconstrained : store.Constrained)
    (condition : Entry User → Bool) : (store.deleteUsers condition).Constrained := by
  have hrest := (hconstrained.delete_devices fun device =>
      deletes store.users condition device.row.userId).delete_podcasts
    fun podcast => deletes store.users condition podcast.row.userId
  have hdependent := hrest.remove_settings fun setting =>
    deletes store.users condition setting.row.userId
  exact hdependent.remove_users (fun _ hmem => (Table.mem_remove.mp hmem).2)
    (fun _ hmem => (Table.mem_remove.mp hmem).2) fun _ hmem => (Table.mem_remove.mp hmem).2

end Store

end PodcastLedger
