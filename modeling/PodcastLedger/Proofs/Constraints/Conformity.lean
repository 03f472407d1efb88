import PodcastLedger.Proofs.Constraints.Statements
import PodcastLedger.Proofs.Log.Logging
import PodcastLedger.Proofs.Statements.Plain

/-!
# Guarded statements and plain ones

On a store that meets the constraints, guarded statements have the outcome of the plain ones, which
look at the new row alone, and lead to a store that meets the constraints again
(`Guarded.Conforms`). But for deletions they also keep all ids (`Guarded.Performs`), so what was found
before them is there after them. The relation is closed under one thing after another
(`Guarded.Performs.bind`); here it is proved of every single statement (such as
`Guarded.insert_episode_performs`).
-/

namespace PodcastLedger.Guarded

open RowStatements (guarded plain)

variable {store next : Store} {context : String} {carries checked : Prop} [Decidable carries]
  [Decidable checked] {userId : Int}

/-- A store that meets the constraints and still has all ids. -/
structure Extends (store next : Store) : Prop extends store.KeepsIds next where
  constrained : next.Constrained

/-- A store that meets the constraints has all its ids. -/
theorem Extends.refl (hconstrained : store.Constrained) : Extends store store :=
  ⟨.refl store, hconstrained⟩

/-- What is there still after two changes is there after one and the other. -/
theorem Extends.trans {middle : Store} (hfirst : Extends store middle)
    (hsecond : Extends middle next) : Extends store next :=
  ⟨hfirst.toKeepsIds.trans hsecond.toKeepsIds, hsecond.constrained⟩

/-- A statement that passes leads to a store that meets the constraints. -/
theorem execute_extends {last : Store} (h : execute context carries next = .ok last)
    (hkeeps : store.KeepsIds next) : Extends store last := by
  obtain ⟨rfl, hnext⟩ := execute_ok h
  exact ⟨hkeeps, hnext⟩

/-- A statement that passes, and whose row is read back, leads to a store that meets the
constraints. -/
theorem read_back_extends {Row : Type} {read : Store → Except Report Row} {last : Store} {row : Row}
    (h : (do
      let written ← execute context carries next
      let row ← read written
      .ok (written, row)) = .ok (last, row))
    (hkeeps : store.KeepsIds next) : Extends store last := by
  obtain ⟨_, hexecute, hread⟩ := bind_eq_ok_iff.mp h
  obtain ⟨_, _, hsame⟩ := bind_eq_ok_iff.mp hread
  cases hsame
  exact execute_extends hexecute hkeeps

/-- An insertion that passes leads to a store that meets the constraints. -/
theorem insert_new_extends {isKnown created : Bool} {last : Store} (hconstrained : store.Constrained)
    (h : insertNew context carries checked isKnown store next = .ok (last, created))
    (hkeeps : store.KeepsIds next) : Extends store last := by
  unfold insertNew at h
  split at h
  · obtain ⟨_, _, hlast⟩ := bind_eq_ok_iff.mp h
    cases hlast
    exact .refl hconstrained
  · obtain ⟨_, hexecute, hlast⟩ := bind_eq_ok_iff.mp h
    cases hlast
    exact execute_extends hexecute hkeeps

section Conforms

variable {First Second : Type} {leads : Store → Prop}

/-- The guarded procedure has the outcome of the plain one, in words, and leads to a store of a
kind. -/
structure Conforms (leads : Store → Prop) (store : Store) (work : Procedure Report First)
    (expected : Procedure Failure First) : Prop where
  eq : work.whole store = reported (expected.whole store)
  leads : ∀ next result, work.whole store = .ok (next, result) → leads next

/-- The guarded procedure has the outcome of the plain one, in words, and leads to a store that meets
the constraints and still has all ids. -/
abbrev Performs (store : Store) (work : Procedure Report First)
    (expected : Procedure Failure First) : Prop :=
  Conforms (Extends store) store work expected

variable {work : Procedure Report First} {expected : Procedure Failure First}
  {rest : First → Procedure Report Second} {rest' : First → Procedure Failure Second}

/-- A success that is expected comes about, and leads to a store of the kind. -/
theorem Conforms.of_ok (hconforms : Conforms leads store work expected) {result : First}
    (hok : expected.whole store = .ok (next, result)) : leads next :=
  hconforms.leads next result (hconforms.eq.trans (congrArg reported hok))

/-- What leads to a store of one kind leads to one of a wider kind. -/
theorem Conforms.mono (hconforms : Conforms leads store work expected) {wider : Store → Prop}
    (hwider : ∀ next, leads next → wider next) : Conforms wider store work expected :=
  ⟨hconforms.eq, fun next result hok => hwider next (hconforms.leads next result hok)⟩

/-- Whether ids go or not. -/
theorem Performs.conforms (hperforms : Performs store work expected) :
    Conforms Store.Constrained store work expected :=
  hperforms.mono fun _ hextends => hextends.constrained

/-- Nothing more is done. -/
theorem Conforms.pure (hleads : leads store) (result : First) :
    Conforms leads store (Pure.pure result) (Pure.pure result) := by
  refine ⟨rfl, ?_⟩
  rintro _ _ ⟨⟩
  exact hleads

/-- Nothing more is done. -/
theorem Performs.pure (hconstrained : store.Constrained) (result : First) :
    Performs store (Pure.pure result) (Pure.pure result) :=
  Conforms.pure (Extends.refl hconstrained) result

/-- It ends with a failure. -/
theorem Conforms.error (failure : Failure) :
    Conforms leads store (guarded.check (.error failure) : Procedure Report First)
      (plain.check (.error failure)) :=
  ⟨rfl, nofun⟩

/-- One thing after another. -/
theorem Conforms.bind {middle : Store → Prop} (hfirst : Conforms middle store work expected)
    (hrest : ∀ next result, expected.whole store = .ok (next, result) → middle next →
      Conforms leads next (rest result) (rest' result)) :
    Conforms leads store (work >>= rest) (expected >>= rest') := by
  obtain ⟨heq, hmiddle⟩ := hfirst
  cases hexpected : expected.whole store with
  | error failure =>
      rw [hexpected] at heq
      refine ⟨?_, ?_⟩ <;> simp only [Procedure.whole_bind, heq, hexpected]
      · rfl
      · exact nofun
  | ok reached =>
      obtain ⟨next, result⟩ := reached
      rw [hexpected] at heq
      obtain ⟨hrestEq, hleads⟩ := hrest next result hexpected (hmiddle next result heq)
      refine ⟨?_, ?_⟩ <;> simp only [Procedure.whole_bind, heq, hexpected]
      · exact hrestEq
      · exact hleads

/-- One thing after another: what the first one leads to meets the constraints for the second one. -/
theorem Performs.bind (hfirst : Performs store work expected)
    (hrest : ∀ next result, expected.whole store = .ok (next, result) → Extends store next →
      Performs next (rest result) (rest' result)) :
    Performs store (work >>= rest) (expected >>= rest') :=
  Conforms.bind hfirst fun next result hok hnext =>
    (hrest next result hok hnext).mono fun _ hlast => hnext.trans hlast

/-- What follows on something that is settled goes on from the same store. -/
theorem Conforms.after {outcome : Except Failure First}
    (hrest : ∀ result, outcome = .ok result → Conforms leads store (rest result) (rest' result)) :
    Conforms leads store (guarded.check outcome >>= rest) (plain.check outcome >>= rest') := by
  cases outcome with
  | error failure => exact ⟨rfl, nofun⟩
  | ok result =>
      obtain ⟨heq, hleads⟩ := hrest result rfl
      exact ⟨heq, hleads⟩

/-- What follows on a query goes on from the same store. -/
theorem Conforms.seen {read : Store → Except Failure First}
    (hrest : ∀ result, read store = .ok result →
      Conforms leads store (rest result) (rest' result)) :
    Conforms leads store (guarded.query read >>= rest) (plain.query read >>= rest') := by
  have hsettled : Conforms leads store (guarded.check (read store) >>= rest)
      (plain.check (read store) >>= rest') := .after hrest
  exact ⟨hsettled.eq, hsettled.leads⟩

/-- A query that finds something in any case. -/
theorem Conforms.read (hleads : leads store) (read : Store → First) :
    Conforms leads store (guarded.query fun store => .ok (read store))
      (plain.query fun store => .ok (read store)) := by
  refine ⟨rfl, ?_⟩
  rintro _ _ ⟨⟩
  exact hleads

/-- A result is told in another way. -/
theorem Conforms.map (hconforms : Conforms leads store work expected) (change : First → Second) :
    Conforms leads store (change <$> work) (change <$> expected) :=
  hconforms.bind fun _ result _ hleads => .pure hleads (change result)

/-- A statement without a result is performed, if it has the outcome of the plain one and keeps all
ids. -/
theorem Performs.change {write : Store → Except Report Store}
    {write' : Store → Except Failure Store} (heq : write store = reported (write' store))
    (hextends : ∀ next, write store = .ok next → Extends store next) :
    Performs store (.change write) (.change write') := by
  refine ⟨?_, fun next result hok => ?_⟩
  · rw [Procedure.whole_change, Procedure.whole_change, heq]
    cases write' store <;> rfl
  · obtain ⟨_, hwrite, hsame⟩ := map_eq_ok_iff.mp hok
    cases hsame
    exact hextends next hwrite

end Conforms

/-! ## Users -/

/-- The search for the name of a user is performed. -/
theorem is_taken_performs (hconstrained : store.Constrained) {name : String}
    (hbindable : IsBindable name) : Performs store (guarded.isTaken name) (plain.isTaken name) := by
  have hask : (guarded.isTaken name).whole store = .ok (store, (store.findUser? name).isSome) := by
    show Except.map _ (ask _ (IsBindable name) >>= _) = _
    rw [ask_of hbindable]
    rfl
  refine ⟨hask, fun next result hok => ?_⟩
  rw [hask] at hok
  cases hok
  exact .refl hconstrained

/-- The insertion of a user whose name is valid and free is performed. -/
theorem insert_user_performs (hconstrained : store.Constrained) {user : User}
    (hname : IsName user.name) (hfree : store.findUser? user.name = none) :
    Performs store (guarded.insertUser user) (plain.insertUser user) := by
  have hnew := Store.name_ne_of_find_user hfree
  have hnext := hconstrained.insert_user_iff.mpr (⟨hname.1, hnew⟩ : user.Checked ∧ _)
  have hread : (store.users.insert user).get? store.users.next = some ⟨store.users.next, user⟩ :=
    Table.get?_eq_some_iff.mpr ⟨Table.mem_insert.mpr (.inr rfl), rfl⟩
  have hinsert : insertUser store user =
      .ok ({ store with users := store.users.insert user }, ⟨store.users.next, user⟩) := by
    unfold insertUser
    rw [execute_of hname.bindable hnext]
    simp only [bind, Except.bind, hread, first]
  refine ⟨hinsert.trans ?_, fun next result hok => ?_⟩
  · show _ = reported (store.insertUser user)
    unfold Store.insertUser
    rw [Store.require_of ⟨hname.1, hname.bindable, hnew⟩]
    rfl
  · obtain ⟨rfl, rfl⟩ := Prod.mk.inj (Except.ok.inj (hinsert.symm.trans hok))
    exact ⟨⟨fun hhas => hhas.insert _, id, id, id⟩, hnext⟩

/-! ## Devices -/

/-- A device that is found is loaded. -/
theorem load_device_of_find {name : String} {device : Entry Device} (hbindable : IsBindable name)
    (hfind : store.findDevice? userId name = some device) :
    store.loadDevice userId name = .ok device := by
  unfold Store.loadDevice Store.selectDevice
  rw [Store.require_of hbindable, hfind]
  rfl

/-- A device is inserted exactly if it has a name that can be carried and an owner. -/
theorem insert_device_eq (hconstrained : store.Constrained) (userId : Int) (name : String) :
    insertDevice store userId name = (do
      reported (Store.require (name ≠ "" ∧ IsBindable name ∧ store.users.Has userId) .insertDevice)
      .ok
        (if (store.findDevice? userId name).isSome then (store, false)
        else
          ({ store with devices := store.devices.insert ⟨userId, name, "", .other⟩ }, true))) := by
  have hchecked : Device.Checked ⟨userId, name, "", .other⟩ ↔ name ≠ "" :=
    Device.checked_iff.trans (and_iff_left (show IsBindable "" by decide))
  unfold insertDevice
  refine insert_new_eq (fun hknown => ?_) fun hnew => ?_
  · obtain ⟨device, hfind⟩ := Option.isSome_iff_exists.mp hknown
    obtain ⟨hmem, howner, _⟩ := Store.mem_of_find_device hfind
    have huser : store.users.Has userId := howner ▸ hconstrained.devices_refer device hmem
    rw [hchecked]
    tauto
  · have hfind : store.findDevice? userId name = none := by simpa using hnew
    have hkey := Store.key_ne_of_find_device hfind
    rw [hconstrained.insert_device_iff, hchecked]
    tauto

/-- The registration of a device is performed. -/
theorem register_device_performs (hconstrained : store.Constrained) (userId : Int) (name : String) :
    Performs store (guarded.registerDevice userId name) (plain.registerDevice userId name) := by
  have hwhole : (guarded.registerDevice userId name).whole store = (do
      reported (validateName "device" name)
      let (next, created) ← insertDevice store userId name
      let device ← reported (next.loadDevice userId name)
      .ok (next, ⟨device, created⟩)) := by
    show (registerDevice userId name).whole store = _
    simp only [registerDevice, Procedure.whole_transaction, Procedure.whole_bind,
      Procedure.whole_settle, Procedure.whole_execute, Procedure.whole_query, Procedure.whole_pure,
      map_bind]
  refine ⟨hwhole.trans ?_, fun last registration hok => ?_⟩
  · show _ = reported (store.registerDevice userId name)
    unfold Store.registerDevice Store.insertDevice
    rw [insert_device_eq hconstrained, reported_bind]
    refine bind_congr_of_ok fun _ hvalid => ?_
    have hname : IsName name := validateName_eq_ok_iff.mp (reported_eq_ok_iff.mp hvalid)
    rw [reported_bind, bind_assoc]
    refine bind_congr_of_ok fun _ _ => ?_
    -- The row that was found or inserted is the one that is read back.
    cases hfind : store.findDevice? userId name with
    | some device =>
        simp only [Option.isSome_some, if_true, bind, Except.bind,
          load_device_of_find hname.bindable hfind]
        rfl
    | none =>
        have hread : Store.findDevice?
            { store with devices := store.devices.insert ⟨userId, name, "", .other⟩ } userId name =
              some ⟨store.devices.next, userId, name, "", .other⟩ :=
          Table.find_insert_new hfind (by simp)
        simp only [Option.isSome_none, Bool.false_eq_true, if_false, bind, Except.bind,
          load_device_of_find hname.bindable hread]
        rfl
  · rw [hwhole] at hok
    simp only [bind_eq_ok_iff] at hok
    obtain ⟨_, _, ⟨middle, created⟩, hinsert, _, _, hok⟩ := hok
    cases hok
    exact insert_new_extends hconstrained hinsert ⟨id, fun hhas => hhas.insert _, id, id⟩

/-- The description of a device that is there is performed. -/
theorem describe_device_performs (hconstrained : store.Constrained) {device : Entry Device}
    (hmem : device ∈ store.devices.entries) (caption : String) (kind : DeviceKind) :
    Performs store (guarded.describeDevice device caption kind)
      (plain.describeDevice device caption kind) := by
  have hnext (hcaption : IsBindable caption) :=
    hconstrained.describe_devices (fun entry => entry.id == device.id) hcaption kind
  refine ⟨?_, fun last written hok => ?_⟩
  · show describeDevice store device caption kind =
      reported (store.describeDevice device caption kind)
    unfold describeDevice Store.describeDevice execute
    rw [ask_eq (and_iff_left_of_imp hnext), reported_bind, bind_assoc]
    refine bind_congr_of_ok fun _ _ => ?_
    simp only [bind, Except.bind, first,
      Table.get_modify_id hmem fun row : Device => { row with caption, kind }]
    rfl
  · exact read_back_extends hok ⟨id, fun hhas => hhas.modify _ _, id, id⟩

/-! ## Podcasts -/

/-- An address that can be carried is looked for. -/
theorem select_podcast_of {url : String} (hbindable : IsBindable url) :
    store.selectPodcast userId url = .ok (store.findPodcast? userId url) := by
  unfold Store.selectPodcast
  rw [Store.require_of hbindable]
  rfl

/-- A podcast is inserted exactly if it has the address of a web page that can be carried, and an
owner. -/
theorem insert_podcast_row_eq (hconstrained : store.Constrained) (userId : Int) (url : String) :
    insertPodcastRow store userId url = (do
      reported
        (Store.require (IsBindable url ∧ IsWebUrl url ∧ store.users.Has userId) .insertPodcast)
      .ok
        (if (store.findPodcast? userId url).isSome then (store, false)
        else ({ store with podcasts := store.podcasts.insert (.fresh userId url) }, true))) := by
  have hchecked : (Podcast.fresh userId url).Checked ↔ IsWebUrl url := Iff.rfl
  unfold insertPodcastRow
  refine insert_new_eq (fun hknown => ?_) fun hnew => ?_
  · obtain ⟨podcast, hfind⟩ := Option.isSome_iff_exists.mp hknown
    obtain ⟨hmem, howner, _⟩ := Store.mem_of_find_podcast hfind
    have huser : store.users.Has userId := howner ▸ hconstrained.podcasts_refer podcast hmem
    rw [hchecked]
    tauto
  · have hfind : store.findPodcast? userId url = none := by simpa using hnew
    rw [hconstrained.insert_podcast_iff, hchecked]
    exact and_congr_right fun _ => and_congr_right fun _ =>
      and_iff_left (Store.key_ne_of_find_podcast hfind)

/-- The search for a podcast, which is added if it is new, is performed: it is never missing. -/
theorem insert_podcast_performs (hconstrained : store.Constrained) (userId : Int) (url : String) :
    Performs store (guarded.insertPodcast userId url) (plain.insertPodcast userId url) := by
  have hwhole : (guarded.insertPodcast userId url).whole store =
      insertPodcastRow store userId url >>= fun inserted =>
        reported (inserted.1.selectPodcast userId url) >>= fun found? =>
          (presentPodcast url found?).map fun podcast => (inserted.1, podcast) := by
    show (insertPodcast userId url).whole store = _
    simp only [insertPodcast, Procedure.whole_bind, Procedure.whole_execute,
      Procedure.whole_query, Procedure.whole_settle, map_bind]
  refine ⟨hwhole.trans ?_, fun last podcast hok => ?_⟩
  · show _ = reported (store.insertPodcast userId url)
    unfold Store.insertPodcast
    rw [insert_podcast_row_eq hconstrained, reported_bind, bind_assoc]
    refine bind_congr_of_ok fun _ hrequired => ?_
    have hbindable : IsBindable url :=
      (Store.require_eq_ok_iff.mp (reported_eq_ok_iff.mp hrequired)).1
    cases hfind : store.findPodcast? userId url with
    | some podcast =>
        simp only [Option.isSome_some, if_true, bind, Except.bind, select_podcast_of hbindable, hfind]
        rfl
    | none =>
        have hread : Store.findPodcast?
            { store with podcasts := store.podcasts.insert (.fresh userId url) } userId url =
              some ⟨store.podcasts.next, .fresh userId url⟩ :=
          Table.find_insert_new hfind (by simp [Podcast.fresh])
        simp only [Option.isSome_none, Bool.false_eq_true, if_false, bind, Except.bind,
          select_podcast_of hbindable, hread]
        rfl
  · rw [hwhole] at hok
    simp only [bind_eq_ok_iff] at hok
    obtain ⟨⟨middle, created⟩, hinsert, found?, _, hok⟩ := hok
    obtain ⟨_, _, hsame⟩ := map_eq_ok_iff.mp hok
    cases hsame
    exact insert_new_extends hconstrained hinsert ⟨id, id, fun hhas => hhas.insert _, id⟩

/-- The update of a podcast that is there is performed. -/
theorem update_subscription_performs (hconstrained : store.Constrained) {podcast : Entry Podcast}
    (hhas : store.podcasts.Has podcast.id) (subscribed : Bool) (time : Instant) :
    Performs store (guarded.updateSubscription podcast subscribed time)
      (plain.updateSubscription podcast subscribed time) := by
  obtain ⟨entry, hmem, hid⟩ := hhas
  have hnext := hconstrained.side_podcasts (fun entry => entry.id == podcast.id) subscribed
    time.stored
  refine ⟨?_, fun last written hok => ?_⟩
  · show updateSubscription store podcast subscribed time =
      reported (store.updateSubscription podcast subscribed time)
    unfold updateSubscription Store.updateSubscription execute
    rw [reported_bind, ask_eq (and_iff_left hnext), bind_assoc]
    refine bind_congr_of_ok fun _ _ => ?_
    simp only [bind, Except.bind, ← hid, Table.get_modify_id hmem, first]
    rfl
  · exact read_back_extends hok ⟨id, id, fun hhas => hhas.modify _ _, id⟩

/-! ## Episodes -/

variable {podcastId : Int} {url : String} {guid : Option String}

/-- An episode is inserted exactly if its texts can be carried and its podcast is there. -/
theorem insert_episode_row_eq (hconstrained : store.Constrained) (podcastId : Int) (url : String)
    (guid : Option String) :
    insertEpisodeRow store podcastId url guid = (do
      reported
        (Store.require
          (IsBindable url ∧ (∀ text ∈ guid, IsBindable text) ∧ store.podcasts.Has podcastId)
          .insertEpisode)
      .ok
        (if (store.findEpisode? podcastId url).isSome then (store, false)
        else ({ store with episodes := store.episodes.insert ⟨podcastId, url, guid⟩ }, true))) := by
  unfold insertEpisodeRow
  refine insert_new_eq (fun hknown => ?_) fun hnew => ?_
  · obtain ⟨episode, hfind⟩ := Option.isSome_iff_exists.mp hknown
    obtain ⟨hmem, hof, _⟩ := Store.mem_of_find_episode hfind
    have hpodcast : store.podcasts.Has podcastId := hof ▸ hconstrained.episodes_refer episode hmem
    tauto
  · have hfind : store.findEpisode? podcastId url = none := by simpa using hnew
    rw [hconstrained.insert_episode_iff, and_assoc]
    exact and_congr_right fun _ => and_congr_right fun _ =>
      and_iff_left (Store.key_ne_of_find_episode hfind)

/-- An episode without an identifier is given one. -/
theorem name_episode_eq (hconstrained : store.Constrained) {episode : Entry Episode}
    (hmem : episode ∈ store.episodes.entries) (hnone : episode.row.guid = none) {text : String}
    (hbindable : IsBindable text) :
    nameEpisode store episode text =
      .ok
        ({ store with
            episodes := store.episodes.modify (fun entry => entry.id == episode.id)
              (·.identify (some text)) },
          ⟨episode.id, episode.row.identify (some text)⟩) := by
  have hnext := hconstrained.name_episodes (fun entry => entry.id == episode.id) (some text)
  have hnamed : ({ episode.row with guid := some text } : Episode) =
      episode.row.identify (some text) := by
    rw [Episode.identify, hnone, Option.none_or]
  have htable : store.episodes.modify (fun entry => entry.id == episode.id)
        (fun row => { row with guid := some text }) =
      store.episodes.modify (fun entry => entry.id == episode.id) (·.identify (some text)) := by
    refine Table.modify_congr_change fun entry hentry hid => ?_
    rwa [store.episodes.eq_of_id_eq hentry hmem (beq_iff_eq.mp hid)]
  unfold nameEpisode
  dsimp only
  rw [execute_of hbindable hnext, ← hnamed, ← htable]
  simp only [bind, Except.bind, Table.get_modify_id hmem, first]

/-- An episode that is found and keeps its identifier stays as it is. -/
theorem identify_found {episode : Entry Episode} (hmem : episode ∈ store.episodes.entries)
    (hkept : episode.row.identify guid = episode.row) :
    (({ store with
        episodes := store.episodes.modify (fun entry => entry.id == episode.id)
          (·.identify guid) } : Store),
      (⟨episode.id, episode.row.identify guid⟩ : Entry Episode)) = (store, episode) := by
  rw [hkept, Table.modify_of_fixed fun entry hentry hid => ?_]
  rwa [store.episodes.eq_of_id_eq hentry hmem (beq_iff_eq.mp hid)]

/-- An episode that is found is identified as it is at once. Only if it has no identifier, it takes
the one that is given. -/
theorem identify_episode_eq (hconstrained : store.Constrained) {episode : Entry Episode}
    (hmem : episode ∈ store.episodes.entries) (hguid : ∀ text ∈ guid, IsBindable text) :
    (identifyEpisode episode guid).whole store =
      .ok
        ({ store with
            episodes := store.episodes.modify (fun entry => entry.id == episode.id)
              (·.identify guid) },
          ⟨episode.id, episode.row.identify guid⟩) := by
  unfold identifyEpisode
  cases hkept : episode.row.guid with
  | some kept =>
      rw [identify_found hmem (Episode.identify_of_some hkept guid)]
      rfl
  | none =>
      cases guid with
      | none =>
          rw [identify_found hmem episode.row.identify_none]
          rfl
      | some text => exact name_episode_eq hconstrained hmem hkept (hguid text rfl)

/-- The identification of an episode keeps what is there. -/
theorem identify_episode_extends (hconstrained : store.Constrained) {episode found : Entry Episode}
    (h : (identifyEpisode episode guid).whole store = .ok (next, found)) : Extends store next := by
  unfold identifyEpisode at h
  split at h
  · exact read_back_extends h ⟨id, id, id, fun hhas => hhas.modify _ _⟩
  · cases h
    exact .refl hconstrained

/-- The search for an episode, which is added if it is new, is performed. -/
theorem insert_episode_performs (hconstrained : store.Constrained) (podcastId : Int) (url : String)
    (guid : Option String) :
    Performs store (guarded.insertEpisode podcastId url guid)
      (plain.insertEpisode podcastId url guid) := by
  have hwhole : (guarded.insertEpisode podcastId url guid).whole store =
      insertEpisodeRow store podcastId url guid >>= fun inserted =>
        ask Statement.selectEpisode.context (IsBindable url) >>= fun _ =>
          first Statement.selectEpisode.context (inserted.1.findEpisode? podcastId url) >>=
            fun episode => (identifyEpisode episode guid).whole inserted.1 := by
    show (insertEpisode podcastId url guid).whole store = _
    simp only [insertEpisode, Procedure.whole_bind, Procedure.whole_execute,
      Procedure.whole_query, map_bind, bind_assoc]
  refine ⟨hwhole.trans ?_, fun last episode hok => ?_⟩
  · show _ = reported (store.insertEpisode podcastId url guid)
    unfold Store.insertEpisode
    rw [insert_episode_row_eq hconstrained, reported_bind, bind_assoc]
    refine bind_congr_of_ok fun _ hrequired => ?_
    obtain ⟨hbindable, hguid, _⟩ := Store.require_eq_ok_iff.mp (reported_eq_ok_iff.mp hrequired)
    cases hfind : store.findEpisode? podcastId url with
    | some episode =>
        obtain ⟨hmem, _⟩ := Store.mem_of_find_episode hfind
        simp only [Option.isSome_some, if_true, bind, Except.bind, ask_of hbindable, hfind, first]
        exact identify_episode_eq hconstrained hmem hguid
    | none =>
        have hread : Store.findEpisode?
            { store with episodes := store.episodes.insert ⟨podcastId, url, guid⟩ } podcastId url =
              some ⟨store.episodes.next, podcastId, url, guid⟩ :=
          Table.find_insert_new hfind (by simp)
        simp only [Option.isSome_none, Bool.false_eq_true, if_false, bind, Except.bind,
          ask_of hbindable, hread, first]
        cases guid <;> rfl
  · rw [hwhole] at hok
    simp only [bind_eq_ok_iff] at hok
    obtain ⟨⟨middle, created⟩, hinsert, _, _, found, _, hok⟩ := hok
    have hinserted :=
      insert_new_extends hconstrained hinsert ⟨id, id, id, fun hhas => hhas.insert _⟩
    exact hinserted.trans (identify_episode_extends hinserted.constrained hok)

/-! ## Actions -/

/-- Rows may be appended to the log exactly if they are checked and what they refer to is there. -/
theorem append_actions_iff (hconstrained : store.Constrained) (rows : List EpisodeAction) :
    (store.appendActions rows).1.Constrained ↔
      ∀ row ∈ rows, row.Checked ∧ store.ActionRefers row := by
  obtain ⟨hothers, hlog, hrows⟩ := Store.append_actions_spec store rows
  have hall {holds : EpisodeAction → Prop} (hold : store.actions.All holds) :
      (store.appendActions rows).1.actions.All holds ↔
        ∀ row ∈ rows, holds (Store.keptAction row) := by
    unfold Table.All at hold ⊢
    rw [hlog, List.forall_mem_append, and_iff_right hold, ← List.forall_mem_map (P := holds),
      hrows, List.forall_mem_map]
  rw [hothers, hconstrained.with_actions_iff, hall hconstrained.actions_checked,
    hall hconstrained.actions_refer, ← forall₂_and]
  exact Iff.rfl

/-- The log accepts a row exactly if its time can be stored, the row is checked, and what it refers to
is there. -/
theorem accepts_action_iff {row : EpisodeAction} :
    store.AcceptsAction row ↔
      row.occurredAt.IsStorable ∧ row.Checked ∧ store.ActionRefers row := by
  rw [EpisodeAction.checked_iff]
  unfold Store.AcceptsAction Store.ActionRefers
  tauto

/-- The insertion of a batch of rows is performed. -/
theorem append_actions_performs (hconstrained : store.Constrained) (rows : List EpisodeAction) :
    Performs store (guarded.appendActions rows) (plain.appendActions rows) := by
  have hiff : ((∀ row ∈ rows, row.occurredAt.IsStorable) ∧
      (store.appendActions rows).1.Constrained) ↔ ∀ row ∈ rows, store.AcceptsAction row := by
    rw [append_actions_iff hconstrained, ← forall₂_and]
    exact forall₂_congr fun _ _ => accepts_action_iff.symm
  refine ⟨?_, fun last entries hok => ?_⟩
  · show appendActions store rows = reported (store.insertActions rows)
    unfold appendActions Store.insertActions execute
    dsimp only
    rw [ask_eq hiff, reported_bind, bind_assoc]
    rfl
  · obtain ⟨middle, hexecute, hok⟩ := bind_eq_ok_iff.mp hok
    cases hok
    refine execute_extends hexecute ?_
    rw [(Store.append_actions_spec store rows).1]
    exact ⟨id, id, id, id⟩

/-! ## Settings -/

variable {target : Target} {key value : String}

/-- A statement has the outcome of what looks at a condition first that amounts to what it needs. -/
theorem execute_eq {required : Prop} [Decidable required] {statement : Statement}
    (hiff : carries ∧ next.Constrained ↔ required) :
    execute statement.context carries next = reported (do
      Store.require required statement
      .ok next) := by
  rw [execute, ask_eq hiff, reported_bind]
  rfl

/-- The removal of a setting is performed. -/
theorem remove_setting_performs (hconstrained : store.Constrained) (userId : Int) (target : Target)
    (key : String) :
    Performs store (guarded.removeSetting userId target key)
      (plain.removeSetting userId target key) :=
  .change (execute_eq (and_iff_left (hconstrained.delete_settings _)))
    fun _ hok => execute_extends hok ⟨id, id, id, id⟩

/-- A setting may be inserted, or given the value where it is in the index already, exactly if its
texts can be carried and are not empty, and what it refers to is there. -/
theorem upsert_setting_performs (hconstrained : store.Constrained) (userId : Int) (target : Target)
    (key value : String) :
    Performs store (guarded.upsertSetting userId target key value)
      (plain.upsertSetting userId target key value) := by
  have hchecked : Setting.Checked ⟨userId, target, key, value⟩ ↔ key ≠ "" ∧ value ≠ "" :=
    Setting.checked_iff
  refine .change ?_ fun _ hok => execute_extends hok ⟨id, id, id, id⟩
  show upsertSetting store userId target key value =
    reported (store.upsertByIndex userId target key value)
  unfold upsertSetting Store.upsertByIndex
  dsimp only
  cases hfind : store.settings.find? fun setting =>
      setting.indexed == Setting.indexed ⟨userId, target, key, value⟩ with
  | some conflict =>
      refine execute_eq ?_
      -- The setting in its place is one of the same user and target, which are there.
      obtain ⟨hmem, hindexed⟩ := Table.mem_of_find hfind
      obtain ⟨huser, htarget⟩ := hconstrained.settings_refer conflict hmem
      have hsame := Setting.indexed_eq_iff.mp (beq_iff_eq.mp hindexed)
      simp only [Store.isSetting, Bool.and_eq_true, beq_iff_eq] at hsame
      obtain ⟨⟨rfl, rfl⟩, rfl⟩ := hsame
      have hnext (hvalue : value ≠ "") :=
        hconstrained.value_settings (fun entry => entry.id == conflict.id) hvalue
      rw [hchecked]
      tauto
  | none =>
      refine execute_eq ?_
      have hfree : ∀ other ∈ store.settings.entries,
          other.row.indexed ≠ Setting.indexed ⟨userId, target, key, value⟩ := fun other hmem => by
        simpa using Table.find_eq_none_iff.mp hfind other hmem
      rw [hconstrained.insert_setting_iff, hchecked]
      unfold Store.SettingRefers
      tauto

/-! ## Deletions -/

/-- A change or deletion of rows passes if the constraints are met after it, and what follows goes on
from there. -/
theorem Conforms.alter {First : Type} {leads : Store → Prop} {change : Store → Store}
    {count : Store → Nat} {rest : Nat → Procedure Report First}
    {rest' : Nat → Procedure Failure First} (hnext : (change store).Constrained)
    (hrest : Conforms leads (change store) (rest (count store)) (rest' (count store))) :
    Conforms leads store (guarded.alter context change count >>= rest)
      (plain.alter context change count >>= rest') := by
  have hpasses : (guarded.alter context change count).whole store =
      .ok (change store, count store) := by
    show Guarded.alter context change count store = _
    unfold Guarded.alter
    rw [execute_of trivial hnext]
    rfl
  have hconforms : Conforms (· = change store) store (guarded.alter context change count)
      (plain.alter context change count) := by
    refine ⟨hpasses, fun next result hok => ?_⟩
    rw [hpasses] at hok
    cases hok
    rfl
  refine hconforms.bind fun next result hok _ => ?_
  cases hok
  exact hrest

end PodcastLedger.Guarded
