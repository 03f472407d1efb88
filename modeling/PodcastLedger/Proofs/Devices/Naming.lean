import PodcastLedger.Proofs.Isolation.Frame
import PodcastLedger.Proofs.Log.History
import PodcastLedger.Proofs.Uploads.Change

/-!
# Devices by their names

A user knows devices by their names, and a request makes of what is known under a name what it says:
it brings the device into being, describes it or ends it, and else leaves it
(`Store.Consistent.description_of_answer`). Requests of other users make no difference
(`Store.SameFor.description_eq`).
-/

namespace PodcastLedger

/-- What is known of a device. -/
structure DeviceDescription where
  caption : String
  kind : DeviceKind
  deriving DecidableEq, Repr

/-- What is known of a device that was only named yet. -/
def DeviceDescription.initial : DeviceDescription :=
  ⟨"", .other⟩

/-- What is known of the device of a row. -/
def Device.description (device : Device) : DeviceDescription :=
  ⟨device.caption, device.kind⟩

namespace Request

/-- The devices that a request brings into being unless the user has them. -/
def devices : Request → List String
  | .registerDevice device => [device]
  | .updateDevice device _ _ => [device]
  | .replaceSubscriptions device _ _ => [device]
  | .changeSubscriptions device _ _ _ => [device]
  | .addActions uploads => uploads.filterMap (·.device)
  | _ => []

/-- The caption that a request gives to a device. -/
def caption? (device : String) : Request → Option String
  | .updateDevice name caption _ => if name = device then caption else none
  | _ => none

/-- The kind that a request gives to a device. -/
def kind? (device : String) : Request → Option DeviceKind
  | .updateDevice name _ kind => if name = device then kind.bind DeviceKind.ofText? else none
  | _ => none

/-- After the request the user does not have the device: it destroys the device, or the account is a
new one. -/
def ends (device : String) : Request → Bool
  | .createUser _ _ => true
  | .destroyDevice name => name == device
  | _ => false

/-- The request registers the devices that it names, and does nothing else with devices. -/
def registers : Request → Bool
  | .registerDevice _ | .replaceSubscriptions _ _ _ | .changeSubscriptions _ _ _ _
  | .addActions _ => true
  | _ => false

/-- The request only looks at the store, or works with settings. -/
def sparesDevices : Request → Bool
  | .loadUser | .findDevice _ | .listDevices | .subscriptionChanges _ _ | .subscriptions _
  | .findPodcast _ | .listActions _ | .lastAction _ _ | .favorites | .resolveKey _ | .getSettings _
  | .saveSettings _ _ _ => true
  | _ => false

/-- What a request that succeeds makes of what is known of a device. -/
def describe (device : String) (known : Option DeviceDescription) (request : Request) :
    Option DeviceDescription :=
  if request.ends device then none
  else if device ∈ request.devices then
    let before := known.getD .initial
    some ⟨(request.caption? device).getD before.caption, (request.kind? device).getD before.kind⟩
  else known

variable {device : String} {request : Request}

/-- A caption is given only to a device that is named. -/
theorem mem_devices_of_caption {caption : String} (hcaption : request.caption? device = some caption) :
    device ∈ request.devices := by
  cases request with
  | updateDevice =>
      simp only [caption?, Option.ite_none_right_eq_some] at hcaption
      exact List.mem_singleton.mpr hcaption.1.symm
  | _ => cases hcaption

/-- A kind is given only to a device that is named. -/
theorem mem_devices_of_kind {kind : DeviceKind} (hkind : request.kind? device = some kind) :
    device ∈ request.devices := by
  cases request with
  | updateDevice =>
      simp only [kind?, Option.ite_none_right_eq_some] at hkind
      exact List.mem_singleton.mpr hkind.1.symm
  | _ => cases hkind

/-- What a registration makes of what is known of a device. -/
theorem describe_of_registers (hregisters : request.registers = true)
    (known : Option DeviceDescription) : request.describe device known =
      known.or (if device ∈ request.devices then some .initial else none) := by
  have hplain : request.ends device = false ∧ request.caption? device = none ∧
      request.kind? device = none := by
    cases request with
    | registerDevice | replaceSubscriptions | changeSubscriptions | addActions =>
        exact ⟨rfl, rfl, rfl⟩
    | _ => cases hregisters
  obtain ⟨hends, hcaption, hkind⟩ := hplain
  unfold describe
  rw [hends, hcaption, hkind, if_neg Bool.false_ne_true]
  cases known <;> split <;> rfl

/-- Nothing is made of what is known by a request that spares the devices. -/
theorem describe_of_spares (hspares : request.sparesDevices = true)
    (known : Option DeviceDescription) : request.describe device known = known := by
  cases request with
  | createUser | destroyUser | registerDevice | updateDevice | destroyDevice | replaceSubscriptions
  | changeSubscriptions | addActions => cases hspares
  | _ => rfl

end Request

namespace Store

/-- What is known of the device of a user and name. -/
def description? (store : Store) (userId : Int) (name : String) : Option DeviceDescription :=
  (store.findDevice? userId name).map (·.row.description)

variable {store middle next : Store} {userId : Int} {user : Entry User} {name device : String}
  {names : List String} {request : Request} {answer : Answer}

/-- Only the registry says what is known of devices. -/
theorem description_of_devices_eq (hdevices : next.devices = store.devices) :
    next.description? userId device = store.description? userId device := by
  unfold description? findDevice?
  rw [hdevices]

/-! ## Registration -/

/-- The devices of a user under the names are in the registry, with those that were there as they
were. No setting was touched. -/
structure Registers (store next : Store) (userId : Int) (names : List String) : Prop where
  devices : Table.Gains Device.key Device.fresh (fun key => key.1 = userId ∧ key.2 ∈ names)
    store.devices.entries next.devices.entries
  settings : next.settings = store.settings

/-- Under its key a row that is gained is the fresh one. -/
theorem find_device_of_gains {created : List (Entry Device)}
    (hfresh : ∀ entry ∈ created, entry.row = Device.fresh entry.row.key)
    [Decidable (Table.HasKey Device.key created (userId, device))] :
    ((created.find? fun entry => entry.row.userId == userId && entry.row.name == device).map
        (·.row.description)) =
      if Table.HasKey Device.key created (userId, device) then some .initial else none := by
  cases hfind : created.find? fun entry => entry.row.userId == userId && entry.row.name == device with
  | some found =>
      have hmem := List.mem_of_find?_eq_some hfind
      have hkey : found.row.userId = userId ∧ found.row.name = device := by
        simpa using List.find?_some hfind
      rw [if_pos ⟨found, hmem, Prod.ext hkey.1 hkey.2⟩, Option.map_some, hfresh found hmem]
      rfl
  | none =>
      rw [if_neg]
      · rfl
      · rintro ⟨entry, hmem, hkey⟩
        obtain ⟨howner, hname⟩ := Prod.mk.inj hkey
        exact absurd (List.find?_eq_none.mp hfind entry hmem) (by simp [howner, hname])

/-- A device that is registered is known as before, or only named yet. -/
theorem Registers.description (hregisters : store.Registers next userId names) (device : String) :
    next.description? userId device =
      (store.description? userId device).or (if device ∈ names then some .initial else none) := by
  classical
  obtain ⟨created, hafter, _, hfresh, hcreated⟩ := hregisters.devices
  unfold description? findDevice? Table.find?
  rw [hafter, List.find?_append, Option.map_or, find_device_of_gains hfresh]
  cases hbefore : store.devices.entries.find?
      fun entry => entry.row.userId == userId && entry.row.name == device with
  | some found => rfl
  | none =>
      have hnew : ¬ Table.HasKey Device.key store.devices.entries (userId, device) := by
        rintro ⟨entry, hmem, hkey⟩
        obtain ⟨howner, hname⟩ := Prod.mk.inj hkey
        exact absurd (List.find?_eq_none.mp hbefore entry hmem) (by simp [howner, hname])
      simp only [hcreated, hnew, not_false_eq_true, and_true, true_and, Option.map_none,
        Option.none_or]

/-- To register a device is to register its name. -/
theorem register_device_registers {registration : Registration}
    (hregister : store.registerDevice userId name = .ok (next, registration)) :
    store.Registers next userId [name] := by
  obtain ⟨hothers, hgains, _⟩ := register_device_gains hregister
  refine ⟨hgains.congr fun key => ?_, by rw [hothers]⟩
  rw [List.mem_singleton, Prod.ext_iff]

/-- An upload of subscriptions registers its device. -/
theorem uploaded_registers {urls : List String} {ended : String → Bool} {time : Instant}
    (huser : store.users.Has userId) (hname : IsName device) :
    store.Registers (store.uploaded userId device urls ended time) userId [device] := by
  obtain ⟨registration, hregister⟩ := register_device_iff.mpr ⟨⟨hname, huser⟩, rfl⟩
  have hregisters := register_device_registers hregister
  have hprepared : store.prepared userId device urls =
      { store.withDevice userId device with
        podcasts := (store.prepared userId device urls).podcasts } := by
    unfold prepared
    rw [with_podcasts_eq]
  unfold uploaded turned
  rw [hprepared]
  exact ⟨hregisters.devices, hregisters.settings⟩

/-- A batch of actions registers the devices that it names. -/
theorem Logged.registers {uploads : List ActionUpload} {logged : List (Entry EpisodeAction)}
    (hlogged : store.Logged next userId uploads logged) :
    store.Registers next userId (uploads.filterMap (·.device)) := by
  refine ⟨hlogged.devices.congr fun key => ?_, hlogged.settings⟩
  rw [List.mem_filterMap]

/-! ## Descriptions -/

/-- A kind is read as the one that its text names. -/
theorem read_device_kind_ok {text : Option String} {kind : Option DeviceKind}
    (hread : readDeviceKind text = .ok kind) : kind = text.bind DeviceKind.ofText? := by
  cases text with
  | none =>
      cases hread
      rfl
  | some text =>
      simp only [readDeviceKind] at hread
      split at hread
      · next hkind =>
          cases hread
          exact hkind.symm
      · cases hread

/-- A device of the user gets a caption and a kind, and the other devices of the user stay. -/
theorem Consistent.description_of_described (hconsistent : store.Consistent)
    {described : Entry Device} (hmem : described ∈ store.devices.entries)
    (howner : described.row.userId = userId) (caption : String) (kind : DeviceKind)
    (device : String) :
    description? { store with
        devices := store.devices.modify (fun entry => entry.id == described.id) fun row =>
          { row with caption, kind } } userId device =
      if described.row.name = device then some ⟨caption, kind⟩
      else store.description? userId device := by
  unfold description? findDevice?
  dsimp only
  rw [Table.find_modify]
  on_goal 2 => exact fun _ => rfl
  split
  · next hname =>
      have hfind := hconsistent.find_device_iff.mpr ⟨hmem, howner, hname⟩
      unfold findDevice? at hfind
      rw [hfind, Option.map_some, if_pos (beq_self_eq_true _)]
      rfl
  · next hname =>
      rw [Option.map_map]
      cases hfind : store.devices.find? fun row => row.userId == userId && row.name == device with
      | none => rfl
      | some found =>
          obtain ⟨hfound, _, hfoundName⟩ := mem_of_find_device hfind
          have hother : (found.id == described.id) = false := by
            refine beq_eq_false_iff_ne.mpr fun hid => hname ?_
            rw [← hfoundName, store.devices.eq_of_id_eq hfound hmem hid]
          rw [Option.map_some, Function.comp_apply, hother]
          rfl

/-- A device that is updated is registered under its name, and described as far as the update says. -/
theorem Consistent.description_of_update (hconsistent : store.Consistent)
    (hmem : user ∈ store.users.entries) {caption kind : Option String} {updated : Entry Device}
    (hupdate : store.updateDevice user.row.name name caption kind = .ok (next, updated))
    (device : String) :
    next.settings = store.settings ∧ next.description? user.id device =
      (Request.updateDevice name caption kind).describe device
        (store.description? user.id device) := by
  simp only [updateDevice, bind_eq_ok_iff, hconsistent.load_user hmem] at hupdate
  obtain ⟨_, _, read, hread, _, huser, ⟨middle, registration⟩, hregister, hupdate⟩ := hupdate
  cases huser
  simp only [describeDevice, bind_eq_ok_iff] at hupdate
  obtain ⟨_, _, hupdate⟩ := hupdate
  cases hupdate
  obtain rfl := read_device_kind_ok hread
  have hregisters := register_device_registers hregister
  have hwrites : Writes user.id none store middle := (register_device_ok hregister).1.writes
  have hmiddle := hconsistent.writes (Table.has_of_mem hmem) hwrites
  obtain ⟨_, _, hregistered, hkey⟩ := register_device_gains hregister
  obtain ⟨howner, hname⟩ := Prod.mk.inj hkey
  refine ⟨hregisters.settings, ?_⟩
  rw [hmiddle.description_of_described hregistered howner, hname, hregisters.description]
  by_cases hdevice : name = device
  · subst hdevice
    have hknown : middle.description? user.id name = some registration.device.row.description := by
      unfold description?
      rw [hmiddle.find_device_iff.mpr ⟨hregistered, howner, hname⟩, Option.map_some]
    rw [hregisters.description, if_pos List.mem_cons_self] at hknown
    have hbefore : (store.description? user.id name).getD .initial =
        registration.device.row.description := by
      cases hstore : store.description? user.id name <;> rw [hstore] at hknown <;>
        exact Option.some.inj hknown
    simp [Request.describe, Request.ends, Request.devices, Request.caption?, Request.kind?, hbefore,
      Device.description]
  · simp [Request.describe, Request.ends, Request.devices, hdevice, Ne.symm hdevice]

/-- The devices that are found when one has ended are those that were found before but for it. -/
theorem Consistent.find_device_ended_iff (hconsistent : store.Consistent) {endedId : Int}
    {found : Entry Device} :
    (store.withoutDevice endedId).findDevice? userId device = some found ↔
      store.findDevice? userId device = some found ∧ found.id ≠ endedId := by
  have hentries : (store.withoutDevice endedId).devices =
      store.devices.remove fun entry => entry.id == endedId := by
    rw [without_device_eq]
  rw [(hconsistent.end_device endedId).find_device_iff, hconsistent.find_device_iff, hentries,
    Table.mem_remove, beq_eq_false_iff_ne]
  tauto

/-- The device that has ended is not found by its name. -/
theorem Consistent.find_device_ended_self (hconsistent : store.Consistent) {ended : Entry Device}
    (hfind : store.findDevice? userId name = some ended) :
    (store.withoutDevice ended.id).findDevice? userId name = none := by
  rw [Option.eq_none_iff_forall_ne_some]
  intro found hfound
  obtain ⟨hsame, hid⟩ := hconsistent.find_device_ended_iff.mp hfound
  rw [hfind] at hsame
  cases hsame
  exact hid rfl

/-- Devices of other users and names are found as before. -/
theorem Consistent.find_device_ended_of_ne (hconsistent : store.Consistent) {ended : Entry Device}
    (hmem : ended ∈ store.devices.entries)
    (hother : (userId, device) ≠ (ended.row.userId, ended.row.name)) :
    (store.withoutDevice ended.id).findDevice? userId device = store.findDevice? userId device := by
  refine Option.ext fun found => ?_
  rw [hconsistent.find_device_ended_iff, and_iff_left_iff_imp]
  intro hfound hid
  obtain ⟨hfoundMem, howner, hname⟩ := mem_of_find_device hfound
  obtain rfl := store.devices.eq_of_id_eq hfoundMem hmem hid
  exact hother (Prod.ext howner.symm hname.symm)

/-- When a device ends, nothing is known under its name, and as much as before under others. -/
theorem Consistent.description_of_ended (hconsistent : store.Consistent) {ended : Entry Device}
    (hfind : store.findDevice? userId name = some ended) (device : String) :
    (store.withoutDevice ended.id).description? userId device =
      if name = device then none else store.description? userId device := by
  unfold description?
  split
  · next hdevice =>
      subst hdevice
      rw [hconsistent.find_device_ended_self hfind]
      rfl
  · next hdevice =>
      obtain ⟨hmem, _, hname⟩ := mem_of_find_device hfind
      rw [hconsistent.find_device_ended_of_ne hmem]
      exact fun hsame => hdevice (hname.symm.trans (Prod.mk.inj hsame).2.symm)

/-! ## Requests -/

/-- Queries and the work with settings leave the registry. -/
theorem devices_of_spares (hanswer : store.answer name request = .ok (next, answer))
    (hspares : request.sparesDevices = true) : next.devices = store.devices := by
  cases request with
  | saveSettings =>
      obtain ⟨_, hsave, _⟩ := write_ok hanswer
      obtain ⟨_, _, hsave⟩ := bind_eq_ok_iff.mp hsave
      rw [save_settings_only hsave]
  | createUser | destroyUser | registerDevice | updateDevice | destroyDevice | replaceSubscriptions
  | changeSubscriptions | addActions => cases hspares
  | _ =>
      obtain ⟨rfl, _⟩ := read_ok hanswer
      rfl

/-- A request that registers devices and succeeds has registered those that it names. -/
theorem Consistent.registers_of_answer (hconsistent : store.Consistent)
    (hmem : user ∈ store.users.entries)
    (hanswer : store.answer user.row.name request = .ok (next, answer))
    (hregisters : request.registers = true) : store.Registers next user.id request.devices := by
  have hload := hconsistent.load_user hmem
  cases request with
  | registerDevice device =>
      obtain ⟨_, hregister, _⟩ := write_ok hanswer
      obtain ⟨_, huser, hregister⟩ := bind_eq_ok_iff.mp hregister
      rw [hload] at huser
      cases huser
      exact register_device_registers hregister
  | replaceSubscriptions =>
      obtain ⟨_, hreplace, _⟩ := write_ok hanswer
      obtain ⟨⟨hname, huser⟩, _, rfl, _⟩ := (replace_subscriptions_iff hload).mp hreplace
      exact uploaded_registers huser hname
  | changeSubscriptions =>
      obtain ⟨_, hchange, _⟩ := write_ok hanswer
      obtain ⟨⟨hname, huser⟩, _, _, rfl, _⟩ := (change_subscriptions_iff hload).mp hchange
      exact uploaded_registers huser hname
  | addActions =>
      obtain ⟨_, hadd, _⟩ := write_ok hanswer
      exact (hconsistent.logged_actions hmem hadd).registers
  | _ => cases hregisters

/-- A request that names devices and succeeds leaves the settings. -/
theorem Consistent.settings_of_named (hconsistent : store.Consistent)
    (hmem : user ∈ store.users.entries)
    (hanswer : store.answer user.row.name request = .ok (next, answer))
    (hnamed : device ∈ request.devices) : next.settings = store.settings := by
  cases request with
  | updateDevice name =>
      obtain ⟨_, hupdate, _⟩ := write_ok hanswer
      exact (hconsistent.description_of_update hmem hupdate name).1
  | registerDevice | replaceSubscriptions | changeSubscriptions | addActions =>
      exact (hconsistent.registers_of_answer hmem hanswer rfl).settings
  | _ => cases hnamed

/-- A request that succeeds makes of what is known of each device what it says. -/
theorem Consistent.description_of_answer (hconsistent : store.Consistent)
    (hmem : user ∈ store.users.entries)
    (hanswer : store.answer user.row.name request = .ok (next, answer))
    (haccount : request ≠ .destroyUser) (device : String) :
    next.description? user.id device =
      request.describe device (store.description? user.id device) := by
  cases request with
  | createUser =>
      obtain ⟨_, hcreate, _⟩ := write_ok hanswer
      obtain ⟨⟨_, _, hfree⟩, _⟩ := create_user_inserts hcreate
      rw [hconsistent.find_user hmem] at hfree
      cases hfree
  | destroyUser => exact absurd rfl haccount
  | updateDevice =>
      obtain ⟨_, hupdate, _⟩ := write_ok hanswer
      exact (hconsistent.description_of_update hmem hupdate device).2
  | destroyDevice name =>
      obtain ⟨_, hdestroy, _⟩ := write_ok hanswer
      simp only [destroyDevice, bind_eq_ok_iff, hconsistent.load_user hmem] at hdestroy
      obtain ⟨_, huser, ended, hload, hdestroy⟩ := hdestroy
      cases huser
      obtain rfl := congrArg Prod.fst (Except.ok.inj hdestroy)
      refine (hconsistent.description_of_ended (load_device_ok hload) device).trans ?_
      simp [Request.describe, Request.ends, Request.devices]
  | registerDevice | replaceSubscriptions | changeSubscriptions | addActions =>
      rw [Request.describe_of_registers rfl]
      exact (hconsistent.registers_of_answer hmem hanswer rfl).description device
  | _ =>
      rw [Request.describe_of_spares rfl]
      exact description_of_devices_eq (devices_of_spares hanswer rfl)

/-- What other users do makes no difference to what is known of the devices of a user. -/
theorem SameFor.description_eq (hsame : SameFor userId store next) (device : String) :
    next.description? userId device = store.description? userId device := by
  unfold description? findDevice? Table.find?
  refine congrArg (Option.map _) ?_
  have hmine : ∀ entries : List (Entry Device),
      (entries.find? fun entry => entry.row.userId == userId && entry.row.name == device) =
        (entries.filter fun entry => entry.row.userId == userId).find? fun entry =>
          entry.row.name == device := by
    intro entries
    rw [List.find?_filter]
    simp only [Bool.decide_and, Bool.decide_eq_true]
  rw [hmine, hmine, hsame.devices.entries]

end Store

end PodcastLedger
