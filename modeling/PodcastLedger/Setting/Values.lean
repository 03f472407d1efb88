import PodcastLedger.Setting.Key

/-!
# Values of settings

The settings of one target are a finite map from keys to values that are not empty.
`Store.saveSettings` sets some keys and removes others, all or nothing, where an empty value removes
too; `Store.getSettings` reads the map.
-/

namespace PodcastLedger.Store

/-- The setting is the one of a user, target and key. -/
def isSetting (userId : Int) (target : Target) (key : String) (setting : Setting) : Bool :=
  setting.userId == userId && setting.target == target && setting.key == key

/-- The settings of a user and target, by key. -/
def settingsOf (store : Store) (userId : Int) (target : Target) : List (String × String) :=
  let settings := store.settings.entries.filter fun setting =>
    setting.row.userId == userId && setting.row.target == target
  (settings.map fun setting => (setting.row.key, setting.row.value)).mergeSort fun first second =>
    decide (first.1 ≤ second.1)

/-- What a setting belongs to is there. -/
def HasTarget (store : Store) (target : Target) : Prop :=
  (∀ deviceId ∈ target.device?, store.devices.Has deviceId) ∧
    (∀ podcastId ∈ target.podcast?, store.podcasts.Has podcastId) ∧
    ∀ episodeId ∈ target.episode?, store.episodes.Has episodeId

/-- Whether a target is there is looked up in the tables. -/
instance (store : Store) (target : Target) : Decidable (store.HasTarget target) :=
  inferInstanceAs (Decidable (_ ∧ _))

/-- Gives a setting a value, whether it had one or not. A setting has an owner, a target, a key and
a value. -/
def upsertSetting (store : Store) (userId : Int) (target : Target) (key value : String) :
    Except Failure Store := do
  require (key ≠ "" ∧ IsBindable key ∧ value ≠ "" ∧ IsBindable value ∧ store.users.Has userId ∧
    store.HasTarget target) .upsertSetting
  match store.settings.find? (isSetting userId target key) with
  | some _ =>
    .ok { store with
      settings := store.settings.modify (fun entry => isSetting userId target key entry.row)
        fun setting => { setting with value } }
  | none => .ok { store with settings := store.settings.insert ⟨userId, target, key, value⟩ }

/-- Removes a setting if it is there. -/
def removeSetting (store : Store) (userId : Int) (target : Target) (key : String) :
    Except Failure Store := do
  require (IsBindable key) .deleteSetting
  .ok (store.deleteSettings fun entry => isSetting userId target key entry.row)

/-- Sets keys to values one after the other. An empty value removes. -/
def assignSettings (store : Store) (userId : Int) (target : Target) :
    List (String × String) → Except Failure Store
  | [] => .ok store
  | (key, value) :: rest => do
    let store ←
      if value = "" then store.removeSetting userId target key
      else store.upsertSetting userId target key value
    store.assignSettings userId target rest

/-- Removes keys one after the other. -/
def removeSettings (store : Store) (userId : Int) (target : Target) :
    List String → Except Failure Store
  | [] => .ok store
  | key :: rest => do
    let store ← store.removeSetting userId target key
    store.removeSettings userId target rest

/-- No key is empty, and none is both set and removed. -/
def validateAssignments (assignments : List (String × String)) (removals : List String) :
    Except Failure Unit :=
  let keys := assignments.map (·.1)
  if "" ∈ keys ++ removals then .error (.invalid .emptySettingKey)
  else
    match removals.find? keys.contains with
    | some key => .error (.invalid (.setAndRemoved key))
    | none => .ok ()

/-- The settings that a key of a user names. -/
def getSettings (store : Store) (userName : String) (key : SettingsKey) :
    Except Failure (List (String × String)) := do
  let user ← store.loadUser userName
  let resolved ← store.resolveKey user.id key
  .ok (store.settingsOf user.id resolved.target)

/-- Sets and removes settings that a key of a user names, in the order of their keys, and gives all
settings that the key names then. -/
def saveSettings (store : Store) (userName : String) (key : SettingsKey)
    (assignments : List (String × String)) (removals : List String) :
    Except Failure (Store × List (String × String)) := do
  validateAssignments assignments removals
  let user ← store.loadUser userName
  let resolved ← store.resolveKey user.id key
  let sorted := assignments.mergeSort fun first second => decide (first.1 ≤ second.1)
  let store ← store.assignSettings user.id resolved.target sorted
  let store ← store.removeSettings user.id resolved.target removals
  .ok (store, store.settingsOf user.id resolved.target)

end PodcastLedger.Store
