import PodcastLedger.Proofs.Statements.Operations

/-!
# Plain statements

Statements on single rows that are refused for what they carry themselves (`RowStatements.plain`), and
the operations over them. A podcast is written under its id and read back; settings are found by their
columns and upserted by their place in the unique index. By these statements accounts and devices are
created, changed and destroyed as they are at once (such as `RowStatements.plain_destroy_user`), and
settings are saved so (`Store.Consistent.save_by_statements`).
-/

namespace PodcastLedger

namespace Store

/-- Writes a side and a time to the row of a podcast, and reads it back. -/
def updateSubscription (store : Store) (podcast : Entry Podcast) (subscribed : Bool)
    (time : Instant) : Except Failure (Store × Entry Podcast) := do
  require time.IsStorable .updateSubscription
  let podcasts := store.podcasts.modify (fun entry => entry.id == podcast.id)
    fun row => { row with subscribed, updatedAt := time.stored }
  match podcasts.get? podcast.id with
  | some written => .ok ({ store with podcasts }, written)
  | none => .error (.refused .updateSubscription)

end Store

namespace RowStatements

/-- Statements that are refused for what they carry themselves. -/
def plain : RowStatements Failure where
  told outcome := outcome
  isTaken name := .query fun store => .ok (store.findUser? name).isSome
  insertUser user := .execute (·.insertUser user)
  registerDevice userId name := .execute (·.registerDevice userId name)
  describeDevice device caption kind := .execute (·.describeDevice device caption kind)
  insertPodcast userId url := .execute (·.insertPodcast userId url)
  updateSubscription podcast subscribed time :=
    .execute (·.updateSubscription podcast subscribed time)
  insertEpisode podcastId url guid := .execute (·.insertEpisode podcastId url guid)
  appendActions rows := .execute (·.insertActions rows)
  upsertSetting userId target key value := .change (·.upsertByIndex userId target key value)
  removeSetting userId target key := .change (·.removeByColumns userId target key)
  alter _ change count := .execute fun store => .ok (change store, count store)

variable {Result : Type} {store : Store} {userId : Int} {target : Target}

/-- A plain check leaves the store. -/
@[simp] theorem plain_check (outcome : Except Failure Result) (store : Store) :
    (plain.check outcome).whole store = outcome.map fun result => (store, result) :=
  rfl

/-- A plain query leaves the store. -/
@[simp] theorem plain_query (read : Store → Except Failure Result) (store : Store) :
    (plain.query read).whole store = (read store).map fun result => (store, result) :=
  rfl

/-- By plain statements an account is created as it is created at once. -/
theorem plain_create_user (store : Store) (name password : String) (workFactor : Nat) :
    (plain.createUser name password workFactor).whole store =
      store.createUser name password workFactor := by
  unfold createUser Store.createUser
  rw [Procedure.whole_bind, plain_check, map_bind]
  refine bind_congr_of_ok fun _ _ => ?_
  split
  · rfl
  · split
    · rfl
    · show Procedure.whole (if (store.findUser? name).isSome then _ else _) store = _
      split <;> rfl

/-- By plain statements an account is destroyed as it is destroyed at once. -/
theorem plain_destroy_user (store : Store) (name : String) :
    (plain.destroyUser name).whole store = store.destroyUser name := by
  unfold destroyUser Store.destroyUser
  rw [Procedure.whole_bind, plain_query, map_bind]
  rfl

/-- By plain statements a device is updated as it is updated at once. -/
theorem plain_update_device (store : Store) (userName name : String)
    (caption kind : Option String) :
    (plain.updateDevice userName name caption kind).whole store =
      store.updateDevice userName name caption kind := by
  unfold updateDevice Store.updateDevice
  simp only [Procedure.whole_bind, plain_check, plain_query, map_bind]
  rfl

/-- By plain statements a device is destroyed as it is destroyed at once. -/
theorem plain_destroy_device (store : Store) (userName name : String) :
    (plain.destroyDevice userName name).whole store = store.destroyDevice userName name := by
  unfold destroyDevice Store.destroyDevice
  simp only [Procedure.whole_bind, plain_query, map_bind]
  rfl

/-- By a plain statement a setting is removed as it is removed at once. -/
theorem plain_remove_setting (store : Store) (userId : Int) (target : Target) (key : String) :
    (plain.removeSetting userId target key).whole store =
      (store.removeSetting userId target key).map fun next => (next, ()) :=
  congrArg _ (Store.remove_by_columns_eq store userId target key)

/-- By a plain statement a setting is given a value as it is given one at once. -/
theorem plain_upsert_setting (hconsistent : store.Consistent) (key value : String) :
    (plain.upsertSetting userId target key value).whole store =
      (store.upsertSetting userId target key value).map fun next => (next, ()) :=
  congrArg _ (hconsistent.upsert_by_index value)

/-- By plain statements keys are set as they are set at once. Consistency carries over from each key
to the next. -/
theorem plain_assign_settings (hconsistent : store.Consistent) (huser : store.users.Has userId)
    (howns : store.Owns userId target) (assignments : List (String × String)) :
    (plain.assignSettings userId target assignments).whole store =
      (store.assignSettings userId target assignments).map fun next => (next, ()) := by
  induction assignments generalizing store with
  | nil => rfl
  | cons assignment rest ih =>
      obtain ⟨key, value⟩ := assignment
      have hrest {middle : Store} (hwrites : Store.SettingWrites userId none target store middle) :
          (plain.assignSettings userId target rest).whole middle =
            (middle.assignSettings userId target rest).map fun next => (next, ()) := by
        refine ih (hconsistent.writes huser hwrites.writes) ?_ (hwrites.owns howns)
        rw [hwrites.writes.users_eq]
        exact huser
      unfold assignSettings Store.assignSettings
      dsimp only
      split
      · rw [Procedure.whole_bind, plain_remove_setting, map_bind, map_bind_eq]
        exact bind_congr_of_ok fun middle hremove => hrest (Store.remove_setting_ok hremove)
      · rw [Procedure.whole_bind, plain_upsert_setting hconsistent, map_bind, map_bind_eq]
        exact bind_congr_of_ok fun middle hupsert => hrest (Store.upsert_setting_ok howns hupsert)

/-- By plain statements keys are removed as they are removed at once. -/
theorem plain_remove_settings (store : Store) (userId : Int) (target : Target)
    (keys : List String) :
    (plain.removeSettings userId target keys).whole store =
      (store.removeSettings userId target keys).map fun next => (next, ()) := by
  induction keys generalizing store with
  | nil => rfl
  | cons key rest ih =>
      unfold removeSettings Store.removeSettings
      rw [Procedure.whole_bind, plain_remove_setting, map_bind, map_bind_eq]
      exact bind_congr_of_ok fun middle _ => ih middle

end RowStatements

namespace Store

/-- Makes the given addresses the whole list of subscriptions of a user, row by row. The podcasts of
the user are walked over in the order that is given for them. -/
def replaceRowByRow (store : Store) (order : List (Entry Podcast) → List (Entry Podcast))
    (userName device : String) (timestamp : Instant) (raws : List String) :
    Except Failure (Store × SubscriptionUpdate) :=
  (RowStatements.plain.replaceSubscriptions order userName device timestamp raws).whole store

/-- Adds subscriptions of a user and ends others, row by row. -/
def changeRowByRow (store : Store) (userName device : String) (timestamp : Instant)
    (add remove : List String) : Except Failure (Store × SubscriptionUpdate) :=
  (RowStatements.plain.changeSubscriptions userName device timestamp add remove).whole store

/-- Stores a batch of actions of a user. What was found for an earlier action is not looked for
again. -/
def addActionsRemembering (store : Store) (userName : String) (uploads : List ActionUpload) :
    Except Failure (Store × ActionsAdded) :=
  (RowStatements.plain.addActions userName uploads).whole store

/-- Sets and removes settings that a key of a user names, in the order of their keys, statement by
statement. -/
def saveByStatements (store : Store) (userName : String) (key : SettingsKey)
    (assignments : List (String × String)) (removals : List String) :
    Except Failure (Store × List (String × String)) :=
  (RowStatements.plain.saveSettings userName key assignments removals).whole store

/-- Saving by statements is saving. -/
theorem Consistent.save_by_statements {store : Store} (hconsistent : store.Consistent)
    (userName : String) (key : SettingsKey) (assignments : List (String × String))
    (removals : List String) :
    store.saveByStatements userName key assignments removals =
      store.saveSettings userName key assignments removals := by
  unfold saveByStatements RowStatements.saveSettings saveSettings
  simp only [Procedure.whole_bind, RowStatements.plain_check, RowStatements.plain_query, map_bind]
  refine bind_congr_of_ok fun _ _ => bind_congr_of_ok fun user huser =>
    bind_congr_of_ok fun resolved hresolve => ?_
  have hhas := Table.has_of_mem (mem_of_find_user (load_user_ok huser).2.2).1
  rw [RowStatements.plain_assign_settings hconsistent hhas (resolve_key_ok hresolve), map_bind]
  refine bind_congr_of_ok fun middle _ => ?_
  rw [RowStatements.plain_remove_settings, map_bind]
  simp only [settings_by_columns_eq, Except.map]

end Store

end PodcastLedger
