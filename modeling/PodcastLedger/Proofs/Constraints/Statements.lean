import PodcastLedger.Proofs.Constraints.Schema
import PodcastLedger.Proofs.Statements.Operations

/-!
# Statements under constraints

Statements each of which the store refuses on its own: a statement passes if it carries what can be
carried and leads to a store that meets all constraints (`Guarded.execute`), and a query that needs a
row may find none (`Guarded.first`). Here are the statements on single rows of all tables, with what
is read back after them, as one way to carry out operations (`RowStatements.guarded`). Their failures
are reported in words.
-/

namespace PodcastLedger

/-- The report of a statement that the store refuses. -/
def Report.refused (context : String) : Report :=
  ⟨.note "The statement was refused", [context]⟩

/-- The report of a query that needs a row and finds none. -/
def Report.missing (context : String) : Report :=
  ⟨.rowMissing, [context]⟩

section Reported

variable {First Second : Type}

/-- The outcome with its failure in words. -/
def reported (outcome : Except Failure First) : Except Report First :=
  outcome.mapError Failure.report

/-- A sequence is reported step by step. -/
theorem reported_bind (outcome : Except Failure First) (next : First → Except Failure Second) :
    reported (outcome >>= next) = reported outcome >>= fun value => reported (next value) := by
  cases outcome <;> rfl

/-- Results are reported exactly if there are any. -/
@[simp] theorem reported_eq_ok_iff {outcome : Except Failure First} {result : First} :
    reported outcome = .ok result ↔ outcome = .ok result := by
  cases outcome <;> simp [reported, Except.mapError]

end Reported

namespace Guarded

variable {store next : Store} {context : String} {carries checked : Prop} [Decidable carries]
  [Decidable checked] {userId : Int}

/-- The statement passes if what it carries can be carried. -/
def ask (context : String) (carries : Prop) [Decidable carries] : Except Report Unit :=
  if carries then .ok () else .error (.refused context)

/-- The statement leads to a store, which must meet the constraints. -/
def execute (context : String) (carries : Prop) [Decidable carries] (next : Store) :
    Except Report Store := do
  ask context (carries ∧ next.Constrained)
  .ok next

/-- The row that a query needs. -/
def first {Row : Type} (context : String) (found? : Option (Entry Row)) :
    Except Report (Entry Row) :=
  match found? with
  | some found => .ok found
  | none => .error (.missing context)

/-- Inserts a row unless another row has its key already, and says whether it did. The checks of the
row itself are made in either case. -/
def insertNew (context : String) (carries checked : Prop) [Decidable carries] [Decidable checked]
    (isKnown : Bool) (store next : Store) : Except Report (Store × Bool) :=
  if isKnown then do
    ask context (carries ∧ checked)
    .ok (store, false)
  else do
    let next ← execute context carries next
    .ok (next, true)

/-- A statement passes with what can be carried. -/
theorem ask_of (hcarries : carries) : ask context carries = .ok () :=
  if_pos hcarries

/-- A statement does not pass with what can not be carried. -/
theorem ask_of_not (hnot : ¬carries) : ask context carries = .error (.refused context) :=
  if_neg hnot

/-- A statement passes on a condition that amounts to that of a statement that is reported. -/
theorem ask_eq {required : Prop} [Decidable required] {statement : Statement}
    (hiff : carries ↔ required) :
    ask statement.context carries = reported (Store.require required statement) := by
  by_cases hcarries : carries
  · rw [ask_of hcarries, Store.require_of (hiff.mp hcarries)]
    rfl
  · rw [ask_of_not hcarries, Store.require, if_neg fun hrequired => hcarries (hiff.mpr hrequired)]
    rfl

/-- A statement leads to a store that meets the constraints. -/
theorem execute_of (hcarries : carries) (hnext : next.Constrained) :
    execute context carries next = .ok next := by
  rw [execute, ask_of ⟨hcarries, hnext⟩]
  rfl

/-- A statement is refused on one ground or the other. -/
theorem execute_of_not (hnot : ¬(carries ∧ next.Constrained)) :
    execute context carries next = .error (.refused context) := by
  rw [execute, ask_of_not hnot]
  rfl

/-- After a statement the constraints are met. -/
theorem execute_ok {last : Store} (h : execute context carries next = .ok last) :
    last = next ∧ next.Constrained := by
  by_cases hpasses : carries ∧ next.Constrained
  · rw [execute_of hpasses.1 hpasses.2] at h
    cases h
    exact ⟨rfl, hpasses.2⟩
  · rw [execute_of_not hpasses] at h
    cases h

/-- A row is inserted unless its key is known, on the condition that amounts to its checks in the one
case and to the constraints in the other. -/
theorem insert_new_eq {isKnown : Bool} {required : Prop} [Decidable required]
    {statement : Statement}
    (hknown : isKnown = true → (carries ∧ checked ↔ required))
    (hnew : isKnown = false → (carries ∧ next.Constrained ↔ required)) :
    insertNew statement.context carries checked isKnown store next = (do
      reported (Store.require required statement)
      .ok (if isKnown then (store, false) else (next, true))) := by
  cases isKnown with
  | true =>
      rw [insertNew, if_pos rfl, ask_eq (hknown rfl)]
      rfl
  | false =>
      rw [insertNew, if_neg Bool.false_ne_true, execute, ask_eq (hnew rfl), bind_assoc]
      rfl

/-! ## Users -/

/-- Whether the name of a user is taken. -/
def isTaken (name : String) : Procedure Report Bool :=
  .query fun store => do
    ask "Error checking user existence" (IsBindable name)
    .ok (store.findUser? name).isSome

/-- Inserts a user, and reads the row back. -/
def insertUser (store : Store) (user : User) : Except Report (Store × Entry User) := do
  let id := store.users.next
  let store ← execute Statement.insertUser.context (IsBindable user.name)
    { store with users := store.users.insert user }
  let written ← first Statement.insertUser.context (store.users.get? id)
  .ok (store, written)

/-! ## Devices -/

/-- Inserts a device unless the user has one of the name. -/
def insertDevice (store : Store) (userId : Int) (name : String) : Except Report (Store × Bool) :=
  let row : Device := ⟨userId, name, "", .other⟩
  insertNew Statement.insertDevice.context (IsBindable name) row.Checked
    (store.findDevice? userId name).isSome store
    { store with devices := store.devices.insert row }

/-- Registers the device of a valid name in a transaction: it is inserted if it is new and read
back. -/
def registerDevice (userId : Int) (name : String) : Procedure Report Store.Registration :=
  .transaction do
    .settle (reported (validateName "device" name))
    let created ← .execute fun store => insertDevice store userId name
    let device ← .query fun store => reported (store.loadDevice userId name)
    pure ⟨device, created⟩

/-- Gives the device under an id a caption and a kind, and reads it back. -/
def describeDevice (store : Store) (device : Entry Device) (caption : String) (kind : DeviceKind) :
    Except Report (Store × Entry Device) := do
  let store ← execute Statement.updateDevice.context (IsBindable caption)
    { store with
      devices := store.devices.modify (fun entry => entry.id == device.id)
        fun row => { row with caption, kind } }
  let written ← first Statement.updateDevice.context (store.devices.get? device.id)
  .ok (store, written)

/-! ## Podcasts -/

/-- Inserts a podcast that was never subscribed to, unless the user has one of the address. -/
def insertPodcastRow (store : Store) (userId : Int) (url : String) :
    Except Report (Store × Bool) :=
  let row := Podcast.fresh userId url
  insertNew Statement.insertPodcast.context (IsBindable url) row.Checked
    (store.findPodcast? userId url).isSome store
    { store with podcasts := store.podcasts.insert row }

/-- The podcast that was read back after an insertion, which is to be there. -/
def presentPodcast (url : String) : Option (Entry Podcast) → Except Report (Entry Podcast)
  | some podcast => .ok podcast
  | none => .error ⟨.note ("Podcast missing after insert: " ++ url), []⟩

/-- Finds the podcast of an address or adds it: it is inserted if it is new and read back. -/
def insertPodcast (userId : Int) (url : String) : Procedure Report (Entry Podcast) := do
  let _ ← .execute fun store => insertPodcastRow store userId url
  let found? ← .query fun store => reported (store.selectPodcast userId url)
  .settle (presentPodcast url found?)

/-- Writes a side and a time to the row of a podcast, and reads it back. -/
def updateSubscription (store : Store) (podcast : Entry Podcast) (subscribed : Bool)
    (time : Instant) : Except Report (Store × Entry Podcast) := do
  let store ← execute Statement.updateSubscription.context time.IsStorable
    { store with
      podcasts := store.podcasts.modify (fun entry => entry.id == podcast.id)
        fun row => { row with subscribed, updatedAt := time.stored } }
  let written ← first Statement.updateSubscription.context (store.podcasts.get? podcast.id)
  .ok (store, written)

/-! ## Episodes and actions -/

/-- Inserts an episode unless the podcast has one of the address. -/
def insertEpisodeRow (store : Store) (podcastId : Int) (url : String) (guid : Option String) :
    Except Report (Store × Bool) :=
  insertNew Statement.insertEpisode.context (IsBindable url ∧ ∀ text ∈ guid, IsBindable text) True
    (store.findEpisode? podcastId url).isSome store
    { store with episodes := store.episodes.insert ⟨podcastId, url, guid⟩ }

/-- Gives an episode an identifier, and reads it back. -/
def nameEpisode (store : Store) (episode : Entry Episode) (guid : String) :
    Except Report (Store × Entry Episode) := do
  let context := "Error updating episode GUID"
  let store ← execute context (IsBindable guid)
    { store with
      episodes := store.episodes.modify (fun entry => entry.id == episode.id)
        fun row => { row with guid := some guid } }
  let written ← first context (store.episodes.get? episode.id)
  .ok (store, written)

/-- Gives an episode an identifier, unless it has one already or none is given. -/
def identifyEpisode (episode : Entry Episode) (guid : Option String) :
    Procedure Report (Entry Episode) :=
  match episode.row.guid, guid with
  | none, some text => .execute fun store => nameEpisode store episode text
  | _, _ => pure episode

/-- Finds the episode of an address or adds it: it is inserted if it is new, read back, and given
the identifier if it has none. -/
def insertEpisode (podcastId : Int) (url : String) (guid : Option String) :
    Procedure Report (Entry Episode) := do
  let _ ← .execute fun store => insertEpisodeRow store podcastId url guid
  let episode ← .query fun store => do
    ask Statement.selectEpisode.context (IsBindable url)
    first Statement.selectEpisode.context (store.findEpisode? podcastId url)
  identifyEpisode episode guid

/-- Appends a batch of rows to the log. -/
def appendActions (store : Store) (rows : List EpisodeAction) :
    Except Report (Store × List (Entry EpisodeAction)) := do
  let (next, entries) := store.appendActions rows
  let store ← execute Statement.insertActions.context (∀ row ∈ rows, row.occurredAt.IsStorable) next
  .ok (store, entries)

/-! ## Settings -/

/-- Removes the settings whose columns are those of a user, target and key. -/
def removeSetting (store : Store) (userId : Int) (target : Target) (key : String) :
    Except Report Store :=
  execute Statement.deleteSetting.context (IsBindable key)
    (store.deleteSettings fun entry =>
      Store.hasColumns userId target entry.row && entry.row.key == key)

/-- Inserts a setting, or gives the value to the one that has its place in the index. -/
def upsertSetting (store : Store) (userId : Int) (target : Target) (key value : String) :
    Except Report Store :=
  let row : Setting := ⟨userId, target, key, value⟩
  let carries := (IsBindable key ∧ IsBindable value) ∧ row.Checked
  execute Statement.upsertSetting.context carries
    { store with
      settings :=
        match store.settings.find? fun setting => setting.indexed == row.indexed with
        | some conflict =>
          store.settings.modify (fun entry => entry.id == conflict.id)
            fun setting => { setting with value }
        | none => store.settings.insert row }

/-! ## Deletions -/

/-- Changes or deletes rows, and counts them as they were. -/
def alter (context : String) (change : Store → Store) (count : Store → Nat) (store : Store) :
    Except Report (Store × Nat) := do
  let next ← execute context True (change store)
  .ok (next, count store)

end Guarded

/-- Statements that are refused unless they leave all constraints met. -/
def RowStatements.guarded : RowStatements Report where
  told := reported
  isTaken := Guarded.isTaken
  insertUser user := .execute (Guarded.insertUser · user)
  registerDevice := Guarded.registerDevice
  describeDevice device caption kind := .execute (Guarded.describeDevice · device caption kind)
  insertPodcast := Guarded.insertPodcast
  updateSubscription podcast subscribed time :=
    .execute (Guarded.updateSubscription · podcast subscribed time)
  insertEpisode := Guarded.insertEpisode
  appendActions rows := .execute (Guarded.appendActions · rows)
  upsertSetting userId target key value := .change (Guarded.upsertSetting · userId target key value)
  removeSetting userId target key := .change (Guarded.removeSetting · userId target key)
  alter context change count := .execute (Guarded.alter context change count)

end PodcastLedger
