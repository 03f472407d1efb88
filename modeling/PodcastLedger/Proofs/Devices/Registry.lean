import Mathlib.Data.List.DropRight
import PodcastLedger.Proofs.Devices.Naming
import PodcastLedger.Proofs.Transactions.Rollback

/-!
# The registry as a map

To a user the registry of devices is a finite map from names to descriptions, and what is in the map
can be told from the requests that succeeded (`toldOf`). `Store.Knows.step` shows that each step of a
session keeps the registry in agreement with them, failed or not and whoever makes it, and
`Store.registry_is_told` says what a user sees of it.
-/

namespace PodcastLedger

/-! ## What was told -/

/-- The requests of a user that succeeded in an answered session, the earliest first. -/
def succeeded (name : String)
    (answered : List ((String × Request) × Except Failure Answer)) : List Request :=
  answered.filterMap fun
    | ((userName, request), .ok _) => if userName = name then some request else none
    | (_, .error _) => none

/-- The requests since the last one after which the user did not have the device. -/
def sinceEnd (device : String) (requests : List Request) : List Request :=
  requests.rtakeWhile fun request => !request.ends device

/-- What requests that succeeded say of a device: it is there if it was named since its last end,
with the caption and the kind that were given last since then, if any were. -/
def toldOf (requests : List Request) (device : String) : Option DeviceDescription :=
  let since := sinceEnd device requests
  if device ∈ since.flatMap Request.devices then
    some ⟨(since.filterMap (·.caption? device)).getLast?.getD DeviceDescription.initial.caption,
      (since.filterMap (·.kind? device)).getLast?.getD DeviceDescription.initial.kind⟩
  else none

variable {device : String} {requests : List Request} {request : Request}

/-- The last of the values that elements have is the one of the last element, if it has one. -/
theorem getLast_filterMap_concat {α β : Type} (value? : α → Option β) (elements : List α)
    (last : α) : ((elements ++ [last]).filterMap value?).getLast? =
      (value? last).or (elements.filterMap value?).getLast? := by
  rw [List.filterMap_append, List.getLast?_append]
  cases hvalue : value? last <;> simp [hvalue]

/-- Of a device that is not named nothing is given. -/
theorem filterMap_of_unnamed {Given : Type} {given? : Request → Option Given}
    (hgiven : ∀ {request value}, given? request = some value → device ∈ request.devices)
    (hunnamed : device ∉ requests.flatMap Request.devices) : requests.filterMap given? = [] := by
  refine List.filterMap_eq_nil_iff.mpr fun request hmem => ?_
  cases hvalue : given? request with
  | none => rfl
  | some value => exact absurd (List.mem_flatMap.mpr ⟨request, hmem, hgiven hvalue⟩) hunnamed

/-- One more request that succeeds makes of what is told of a device what it says. -/
theorem told_of_concat (requests : List Request) (request : Request) (device : String) :
    toldOf (requests ++ [request]) device = request.describe device (toldOf requests device) := by
  unfold toldOf sinceEnd Request.describe
  rw [List.rtakeWhile_concat]
  cases hends : request.ends device with
  | true => rfl
  | false =>
      simp only [Bool.not_false, if_pos, getLast_filterMap_concat, List.flatMap_append,
        List.mem_append, List.flatMap_singleton, Bool.false_eq_true, if_false, Option.getD_or]
      by_cases hnamed : device ∈ request.devices
      · rw [if_pos (.inr hnamed), if_pos hnamed]
        split
        · rfl
        · next hnew =>
            rw [filterMap_of_unnamed Request.mem_devices_of_caption hnew,
              filterMap_of_unnamed Request.mem_devices_of_kind hnew]
            rfl
      · have hcaption : request.caption? device = none :=
          Option.eq_none_iff_forall_ne_some.mpr fun _ hgiven =>
            hnamed (Request.mem_devices_of_caption hgiven)
        have hkind : request.kind? device = none :=
          Option.eq_none_iff_forall_ne_some.mpr fun _ hgiven =>
            hnamed (Request.mem_devices_of_kind hgiven)
        simp only [hcaption, hkind, hnamed, or_false, if_false, Option.getD_none]

namespace Store

variable {store next : Store} {name userName : String} {user : Entry User}

/-! ## Steps -/

/-- The registry holds for the user of a name what requests that succeeded say of each device. -/
def Knows (store : Store) (name : String) (requests : List Request) : Prop :=
  ∀ user ∈ store.users.entries, user.row.name = name →
    ∀ device, store.description? user.id device = toldOf requests device

/-- A user who is there after a request was there before, unless the request created the account. -/
theorem Consistent.mem_user_of_effect (hconsistent : store.Consistent)
    (heffect : store.Effect userName request next) (hmem : user ∈ next.users.entries)
    (hcreated : user.row.name = userName → ∀ password workFactor,
      request ≠ .createUser password workFactor) : user ∈ store.users.entries := by
  cases heffect with
  | create hname =>
      rcases Table.mem_insert.mp hmem with hold | rfl
      · exact hold
      · exact absurd rfl (hcreated hname _ _)
  | destroy =>
      rw [destroy_account_eq hconsistent] at hmem
      exact (Table.mem_remove.mp hmem).1
  | nothing => exact hmem
  | writes _ hwrites => exact hwrites.users_eq ▸ hmem

/-- A user who destroys the account is not there afterwards. -/
theorem Consistent.name_ne_of_destroyed (hconsistent : store.Consistent) {answer : Answer}
    (hanswer : store.answer name .destroyUser = .ok (next, answer))
    (hmem : user ∈ next.users.entries) : user.row.name ≠ name := by
  obtain ⟨_, hdestroy, _⟩ := write_ok hanswer
  obtain ⟨destroyed, hload, hdestroy⟩ := bind_eq_ok_iff.mp hdestroy
  obtain rfl := congrArg Prod.fst (Except.ok.inj hdestroy)
  rw [destroy_account_eq hconsistent] at hmem
  obtain ⟨hold, hkept⟩ := Table.mem_remove.mp hmem
  obtain ⟨hdestroyed, hname⟩ := mem_of_find_user (load_user_ok hload).2.2
  intro hsame
  rw [hconsistent.users_unique.eq hold hdestroyed (hsame.trans hname.symm), beq_self_eq_true]
    at hkept
  cases hkept

/-- A new account has no devices. -/
theorem Consistent.description_of_created (hconsistent : store.Consistent) {password : String}
    {workFactor : Nat} {created : Entry User}
    (hcreate : store.createUser name password workFactor = .ok (next, created))
    (hmem : user ∈ next.users.entries) (hname : user.row.name = name) (device : String) :
    next.description? user.id device = none := by
  obtain ⟨⟨_, _, hfree⟩, rfl⟩ := create_user_inserts hcreate
  rcases Table.mem_insert.mp hmem with hold | rfl
  · exact absurd hname (name_ne_of_find_user hfree user hold)
  · refine Option.map_eq_none_iff.mpr (Table.find_eq_none_iff.mpr fun device hdevice => ?_)
    have hlt := Table.lt_next_of_has (hconsistent.devices_owned device hdevice)
    rw [beq_eq_false_iff_ne.mpr (Int.ne_of_lt hlt), Bool.false_and]

/-- A step keeps the registry in agreement with the requests that succeeded. -/
theorem Knows.step (hknows : store.Knows name requests) (hconsistent : store.Consistent)
    (userName : String) (request : Request) :
    (store.step userName request).1.Knows name
      (requests ++ succeeded name [((userName, request), (store.step userName request).2)]) := by
  cases hanswer : store.answer userName request with
  | error failure =>
      rw [step_of_error hanswer]
      exact (List.append_nil requests).symm ▸ hknows
  | ok outcome =>
      obtain ⟨next, answer⟩ := outcome
      rw [step_of_answer hanswer]
      have heffect := answer_effect hanswer
      intro user hmem hname device
      by_cases hsame : userName = name
      · subst hsame
        rw [show succeeded userName [((userName, request), .ok answer)] = [request] by
          simp [succeeded], told_of_concat]
        cases request with
        | createUser =>
            obtain ⟨_, hcreate, _⟩ := write_ok hanswer
            exact hconsistent.description_of_created hcreate hmem hname device
        | destroyUser => exact absurd hname (hconsistent.name_ne_of_destroyed hanswer hmem)
        | _ =>
            have hbefore := hconsistent.mem_user_of_effect heffect hmem fun _ _ _ => nofun
            rw [← hknows user hbefore hname]
            subst hname
            exact hconsistent.description_of_answer hbefore hanswer nofun device
      · have hbefore := hconsistent.mem_user_of_effect heffect hmem
          fun hcreated => absurd (hcreated.symm.trans hname) hsame
        rw [show succeeded name [((userName, request), .ok answer)] = [] by simp [succeeded, hsame],
          List.append_nil, ← hknows user hbefore hname]
        exact (SameFor.effect hconsistent hbefore (hname ▸ hsame) heffect).description_eq device

/-- A session keeps the registry in agreement with the requests that succeeded. -/
theorem Knows.run (hknows : store.Knows name requests) (hconsistent : store.Consistent)
    (session : List (String × Request)) :
    (store.run session).1.Knows name
      (requests ++ succeeded name (session.zip (store.run session).2)) := by
  induction session generalizing store requests with
  | nil => exact (List.append_nil requests).symm ▸ hknows
  | cons first rest ih =>
      obtain ⟨userName, request⟩ := first
      have hrest := ih (hknows.step hconsistent userName request)
        (hconsistent.step userName request)
      rw [List.append_assoc] at hrest
      unfold succeeded at hrest ⊢
      rwa [← List.filterMap_append] at hrest

/-- Nothing is known without users. -/
theorem knows_empty (name : String) : Store.empty.Knows name [] :=
  List.forall_mem_nil _

/-! ## Listing -/

/-- The devices of a user are listed in the order of their names, each once, with what is known of
them. -/
theorem Consistent.list_devices (hconsistent : store.Consistent)
    (hmem : user ∈ store.users.entries) :
    ∃ summaries, store.listDevices user.row.name = .ok summaries ∧
      (summaries.map fun summary => summary.device.row.name).Pairwise (· < ·) ∧
      ∀ device description,
        (∃ summary ∈ summaries, summary.device.row.name = device ∧
          summary.device.row.description = description) ↔
        store.description? user.id device = some description := by
  let devices := store.devices.entries.filter fun device => device.row.userId == user.id
  let sorted := devices.mergeSort fun first second => decide (first.row.name ≤ second.row.name)
  refine ⟨sorted.map fun device => ⟨device, store.countSubscriptions user.id⟩, ?_, ?_, ?_⟩
  · unfold listDevices
    rw [hconsistent.load_user hmem]
    rfl
  · rw [List.map_map]
    have hunique : store.devices.entries.Pairwise fun first second =>
        (first.row.userId, first.row.name) ≠ (second.row.userId, second.row.name) :=
      List.pairwise_map.mp hconsistent.devices_unique
    refine List.pairwise_map.mpr (Table.ascending_merge_sort (fun device : Entry Device =>
      device.row.name) ((hunique.filter _).imp_of_mem ?_))
    intro first second hfirst hsecond hkeys hname
    have hfirstOwner := beq_iff_eq.mp (List.mem_filter.mp hfirst).2
    have hsecondOwner := beq_iff_eq.mp (List.mem_filter.mp hsecond).2
    exact hkeys (Prod.ext (hfirstOwner.trans hsecondOwner.symm) hname)
  · intro device description
    unfold description?
    simp only [List.mem_map, Option.map_eq_some_iff, hconsistent.find_device_iff]
    constructor
    · rintro ⟨_, ⟨entry, hentry, rfl⟩, hname, hdescription⟩
      have hlisted : entry ∈ devices := (List.mergeSort_perm _ _).mem_iff.mp hentry
      obtain ⟨hstored, howner⟩ := List.mem_filter.mp hlisted
      exact ⟨entry, ⟨hstored, beq_iff_eq.mp howner, hname⟩, hdescription⟩
    · rintro ⟨entry, ⟨hstored, howner, hname⟩, hdescription⟩
      have hlisted : entry ∈ devices := List.mem_filter.mpr ⟨hstored, beq_iff_eq.mpr howner⟩
      exact ⟨_, ⟨entry, (List.mergeSort_perm _ _).mem_iff.mpr hlisted, rfl⟩, hname, hdescription⟩

/-- A device that is registered is reported as created exactly if it was not known. -/
theorem Consistent.created_iff (hconsistent : store.Consistent)
    (hmem : user ∈ store.users.entries) {registration : Registration}
    (hregister : (store.step user.row.name (.registerDevice device)).2 =
      .ok (.registration registration)) :
    registration.created = true ↔ store.description? user.id device = none := by
  cases hanswer : store.answer user.row.name (.registerDevice device) with
  | error failure =>
      rw [step_of_error hanswer] at hregister
      cases hregister
  | ok outcome =>
      obtain ⟨next, answer⟩ := outcome
      rw [step_of_answer hanswer] at hregister
      cases hregister
      obtain ⟨_, hregister, hanswered⟩ := write_ok hanswer
      cases hanswered
      simp only [bind_eq_ok_iff, hconsistent.load_user hmem, registerDevice, insertDevice]
        at hregister
      obtain ⟨_, huser, _, _, _, _, hregister⟩ := hregister
      cases huser
      unfold description?
      cases hfind : store.findDevice? user.id device <;> rw [hfind] at hregister <;>
        cases hregister <;> simp

/-! ## What users see -/

/-- The registry is told by the requests. In any session the devices that a user lists are those that
a request of the user named and that no later one ended, in the order of their names, each once, with
the caption and the kind that were given last since; a device that is registered then is created
exactly if it is not among them. No query and no work with settings touches the registry, nor does a
call that fails, for whatever reason and at whatever statement. -/
theorem registry_is_told (session : List (String × Request)) :
    let last := (Store.empty.run session).1
    let told := fun name => toldOf (succeeded name (session.zip (Store.empty.run session).2))
    (∀ user ∈ last.users.entries,
      (∃ summaries, last.listDevices user.row.name = .ok summaries ∧
        (summaries.map fun summary => summary.device.row.name).Pairwise (· < ·) ∧
        ∀ device description,
          (∃ summary ∈ summaries, summary.device.row.name = device ∧
            summary.device.row.description = description) ↔
          told user.row.name device = some description) ∧
      ∀ device registration,
        (last.step user.row.name (.registerDevice device)).2 = .ok (.registration registration) →
          (registration.created = true ↔ told user.row.name device = none)) ∧
    (∀ name request, request.sparesDevices = true →
      (last.step name request).1.devices = last.devices) ∧
    ∀ (connection : Connection) (call : Call) report, connection.store = last →
      (call.perform connection).1 = .error report →
        (call.perform connection).2.store.devices = last.devices := by
  intro last told
  have hconsistent : last.Consistent := (Reachable.empty.run session).consistent
  have hknows : ∀ user ∈ last.users.entries, ∀ device,
      last.description? user.id device = told user.row.name device := fun user hmem =>
    (knows_empty user.row.name).run consistent_empty session user hmem rfl
  refine ⟨fun user hmem => ⟨?_, fun device registration hregister => ?_⟩,
    fun name request hspares => ?_, ?_⟩
  · simp only [← hknows user hmem]
    exact hconsistent.list_devices hmem
  · rw [← hknows user hmem]
    exact hconsistent.created_iff hmem hregister
  · cases hanswer : last.answer name request with
    | error failure => rw [step_of_error hanswer]
    | ok outcome =>
        rw [step_of_answer hanswer]
        exact devices_of_spares hanswer hspares
  · rintro connection call report hstore herror
    rw [(call.perform_restores connection).restored report herror, hstore]

/-- A phone is named in a batch, described and destroyed, and described anew bit by bit. A tablet is
named in an upload and registered then, and a watch is given a kind that there is not. -/
def phoneDescribedAnew : List (String × Request) :=
  [("ann", .createUser "long enough" 10),
    ("ann", .addActions [⟨"download", some "phone", "http://a.example/1", none,
      "http://a.example/feed", none, none, .ofUnix 1000, none⟩]),
    ("ann", .updateDevice "phone" (some "Pocket") (some "mobile")),
    ("ann", .destroyDevice "phone"),
    ("ann", .changeSubscriptions "tablet" (.ofUnix 2000) ["http://b.example/feed"] []),
    ("ann", .updateDevice "phone" none (some "laptop")),
    ("ann", .updateDevice "watch" (some "Wrist") (some "toaster")),
    ("ann", .updateDevice "phone" (some "Desk") none),
    ("ann", .registerDevice "tablet")]

/-- The phone has the kind and the caption that it was given since, the tablet none, and the watch is
not there. It is not there either after a batch that named it and failed at its episode. -/
theorem registry_after_phone_described_anew :
    let last := (Store.empty.run phoneDescribedAnew).1
    let told := toldOf
      (succeeded "ann" (phoneDescribedAnew.zip (Store.empty.run phoneDescribedAnew).2))
    let idle : Connection := ⟨last, [], []⟩
    let batch : Call := ⟨id, "ann", .addActions [⟨"download", some "watch", "http://a.example/2",
      some "\x00", "http://a.example/feed", none, none, .ofUnix 3000, none⟩]⟩
    let watch : Registration := ⟨⟨4, 1, "watch", "", .other⟩, true⟩
    (told "phone" = some ⟨"Desk", .laptop⟩ ∧ told "tablet" = some ⟨"", .other⟩ ∧
      told "watch" = none) ∧
    (∃ summaries, last.listDevices "ann" = .ok summaries ∧
      (summaries.map fun summary => summary.device.row.name).Pairwise (· < ·) ∧
      ∀ device description,
        (∃ summary ∈ summaries, summary.device.row.name = device ∧
          summary.device.row.description = description) ↔ told device = some description) ∧
    ((last.step "ann" (.registerDevice "watch")).2 = .ok (.registration watch) ∧
      (watch.created = true ↔ told "watch" = none)) ∧
    (last.step "ann" (.saveSettings ⟨"account", none, none, none⟩ [("theme", "dark")] [])).1.devices =
      last.devices ∧
    (Work.steps id "ann" batch.request idle).2.store.devices.entries.length = 3 ∧
    (batch.perform idle).1 = .error (Report.refused "Error inserting episode") ∧
    (batch.perform idle).2.store.devices = last.devices := by
  intro last told idle batch watch
  have hmem : (⟨1, "ann", false, 10⟩ : Entry User) ∈ last.users.entries := by decide +kernel
  obtain ⟨husers, hspared, hfailed⟩ := registry_is_told phoneDescribedAnew
  obtain ⟨hlisted, hcreated⟩ := husers _ hmem
  have hwatch : (last.step "ann" (.registerDevice "watch")).2 = .ok (.registration watch) := by
    decide +kernel
  have herror : (batch.perform idle).1 = .error (Report.refused "Error inserting episode") := by
    decide +kernel
  exact ⟨by decide +kernel, hlisted, ⟨hwatch, hcreated "watch" watch hwatch⟩,
    hspared "ann" (.saveSettings ⟨"account", none, none, none⟩ [("theme", "dark")] []) rfl,
    by decide +kernel, herror, hfailed idle batch _ rfl herror⟩

end Store

end PodcastLedger
