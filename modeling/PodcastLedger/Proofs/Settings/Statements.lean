import PodcastLedger.Proofs.Ledger.Reachability

/-!
# Statements on settings

How the statements on settings find their rows. To read and to delete, each column of a reference is
compared with what the target has there, where nothing is compared with nothing; to give a value, a
row is inserted, and the row that has its place in the unique index already gets the value instead.
In the index a reference that is not given counts as zero. Both ways mean the settings of one user,
target and key (`Store.remove_by_columns_eq`, `Store.Consistent.upsert_by_index`).
-/

namespace PodcastLedger

/-- The place of a setting in the unique index. A reference that is not given counts as zero. -/
def Setting.indexed (setting : Setting) : Int × Scope × Int × Int × Int × String :=
  (setting.userId, setting.target.scope, setting.target.device?.getD 0,
    setting.target.podcast?.getD 0, setting.target.episode?.getD 0, setting.key)

/-- Settings have one place in the index exactly if they are one of the same user, target and key:
that a reference counts as zero is a matter of the scope alone. -/
theorem Setting.indexed_eq_iff {first second : Setting} :
    first.indexed = second.indexed ↔
      Store.isSetting second.userId second.target second.key first = true := by
  rw [← Setting.columns_eq_iff]
  simp only [indexed, columns, Prod.mk.injEq]
  refine and_congr_right fun _ => and_congr_right fun hscope => ?_
  cases hfirst : first.target <;> cases hsecond : second.target <;>
    simp_all [Target.scope, Target.device?, Target.podcast?, Target.episode?]

/-- A column has the reference that is wanted, or none if none is wanted. -/
def isReference (wanted column : Option Int) : Bool :=
  match wanted with
  | some id => column == some id
  | none => column.isNone

/-- A column has what is wanted exactly if it is the same. -/
theorem is_reference_iff {wanted column : Option Int} :
    isReference wanted column = true ↔ column = wanted := by
  cases wanted with
  | none => exact Option.isNone_iff_eq_none
  | some id => exact beq_iff_eq

namespace Store

variable {store : Store} {userId : Int} {target : Target} {key : String}

/-- The columns of a setting are those of a user and target. -/
def hasColumns (userId : Int) (target : Target) (setting : Setting) : Bool :=
  setting.userId == userId && setting.target.scope == target.scope &&
    isReference target.device? setting.target.device? &&
    isReference target.podcast? setting.target.podcast? &&
    isReference target.episode? setting.target.episode?

/-- The columns single out the settings of the user and target. -/
theorem has_columns_eq (userId : Int) (target : Target) (setting : Setting) :
    hasColumns userId target setting = (setting.userId == userId && setting.target == target) := by
  rw [Bool.eq_iff_iff]
  simp only [hasColumns, Bool.and_eq_true, beq_iff_eq, is_reference_iff]
  constructor
  · rintro ⟨⟨⟨⟨huser, hscope⟩, hdevice⟩, hpodcast⟩, hepisode⟩
    exact ⟨huser, Target.eq_of_references hscope hdevice hpodcast hepisode⟩
  · rintro ⟨huser, htarget⟩
    rw [htarget]
    exact ⟨⟨⟨⟨huser, rfl⟩, rfl⟩, rfl⟩, rfl⟩

/-! ## Single statements -/

/-- The settings whose columns are those of a user and target, by key. -/
def settingsByColumns (store : Store) (userId : Int) (target : Target) : List (String × String) :=
  let settings := store.settings.entries.filter fun setting => hasColumns userId target setting.row
  (settings.map fun setting => (setting.row.key, setting.row.value)).mergeSort fun first second =>
    decide (first.1 ≤ second.1)

/-- Removes the settings whose columns are those of a user, target and key. -/
def removeByColumns (store : Store) (userId : Int) (target : Target) (key : String) :
    Except Failure Store := do
  require (IsBindable key) .deleteSetting
  .ok (store.deleteSettings fun entry => hasColumns userId target entry.row && entry.row.key == key)

/-- Inserts a setting, or gives the value to the one that has its place in the index. -/
def upsertByIndex (store : Store) (userId : Int) (target : Target) (key value : String) :
    Except Failure Store := do
  require (key ≠ "" ∧ IsBindable key ∧ value ≠ "" ∧ IsBindable value ∧ store.users.Has userId ∧
    store.HasTarget target) .upsertSetting
  let row : Setting := ⟨userId, target, key, value⟩
  match store.settings.find? fun setting => setting.indexed == row.indexed with
  | some conflict =>
    .ok { store with
      settings := store.settings.modify (fun entry => entry.id == conflict.id)
        fun setting => { setting with value } }
  | none => .ok { store with settings := store.settings.insert row }

/-- The settings found by their columns are those of the user and target. -/
theorem settings_by_columns_eq (store : Store) (userId : Int) (target : Target) :
    store.settingsByColumns userId target = store.settingsOf userId target := by
  unfold settingsByColumns settingsOf
  simp only [has_columns_eq]

/-- The setting that is removed by its columns is the one of the user, target and key. -/
theorem remove_by_columns_eq (store : Store) (userId : Int) (target : Target) (key : String) :
    store.removeByColumns userId target key = store.removeSetting userId target key := by
  unfold removeByColumns removeSetting
  simp only [has_columns_eq]
  rfl

/-- The setting that has the place in the index is the one of the user, target and key. -/
theorem Consistent.upsert_by_index (hconsistent : store.Consistent) (value : String) :
    store.upsertByIndex userId target key value = store.upsertSetting userId target key value := by
  have hcondition : (fun setting : Setting =>
      setting.indexed == Setting.indexed ⟨userId, target, key, value⟩) =
        isSetting userId target key := by
    funext setting
    rw [Bool.eq_iff_iff, beq_iff_eq, Setting.indexed_eq_iff]
  unfold upsertByIndex upsertSetting
  refine bind_congr_of_ok fun _ _ => ?_
  dsimp only
  rw [hcondition]
  cases hfind : store.settings.find? (isSetting userId target key) with
  | none => rfl
  | some conflict =>
      obtain ⟨hmem, hconflict⟩ := Table.mem_of_find hfind
      -- No other row has the place in the index.
      have hsame : ∀ entry ∈ store.settings.entries,
          (entry.id == conflict.id) = isSetting userId target key entry.row := by
        intro entry hentry
        rw [Bool.eq_iff_iff, beq_iff_eq]
        constructor
        · intro hid
          rw [store.settings.eq_of_id_eq hentry hmem hid]
          exact hconflict
        · intro hsetting
          have hcolumns {setting : Setting} (h : isSetting userId target key setting = true) :
              setting.columns = Setting.columns ⟨userId, target, key, value⟩ :=
            Setting.columns_eq_iff.mpr h
          rw [hconsistent.settings_unique.eq hentry hmem
            ((hcolumns hsetting).trans (hcolumns hconflict).symm)]
      refine congrArg (fun settings => Except.ok { store with settings }) ?_
      exact Table.modify_congr hsame

/-! ## Reading -/

/-- The settings that a key of a user names, found by their columns. -/
def getByStatements (store : Store) (userName : String) (key : SettingsKey) :
    Except Failure (List (String × String)) := do
  let user ← store.loadUser userName
  let resolved ← store.resolveKey user.id key
  .ok (store.settingsByColumns user.id resolved.target)

/-- Reading by statements is reading. -/
theorem get_by_statements_eq (store : Store) (userName : String) (key : SettingsKey) :
    store.getByStatements userName key = store.getSettings userName key := by
  unfold getByStatements getSettings
  simp only [settings_by_columns_eq]

end Store

end PodcastLedger
