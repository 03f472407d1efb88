import PodcastLedger.Proofs.Isolation.Agreement

/-!
# Devices on both sides

The operations on devices agree in the source and in the copy. The end of a device concerns as many
rows on both sides, as nothing of another user refers to the device.
-/

namespace PodcastLedger.Store

variable {translation : Translation} {user : Entry User} {source copy : Store} {name : String}

/-- A device is selected on both sides. -/
theorem Mirrors.select_device (hmirrors : Mirrors translation user source copy) (name : String) :
    Agree (fun first second => first = second.map translation.device)
      (source.selectDevice translation.userId name) (copy.selectDevice user.id name) := by
  unfold selectDevice
  refine (Agree.refl _).bind fun _ _ _ _ _ => ?_
  exact hmirrors.find_device name

/-- A device is loaded on both sides. -/
theorem Mirrors.load_device (hmirrors : Mirrors translation user source copy) (name : String) :
    Agree (fun first second => first = translation.device second)
      (source.loadDevice translation.userId name) (copy.loadDevice user.id name) := by
  unfold loadDevice
  refine (hmirrors.select_device name).bind fun first second _ _ hselect => ?_
  rw [hselect]
  cases second with
  | none => exact rfl
  | some device => exact rfl

/-- The same device was named, and it was new on both sides or on none. -/
def SameRegistration (translation : Translation) (first second : Registration) : Prop :=
  first.device = translation.device second.device ∧ first.created = second.created

/-- A device is found or added on both sides. -/
theorem Mirrors.insert_device_agree (hmirrors : Mirrors translation user source copy)
    (name : String) :
    Agree (Both translation user (SameRegistration translation))
      (source.insertDevice translation.userId name) (copy.insertDevice user.id name) := by
  unfold insertDevice
  have hrequire := agree_require
    (and_congr_right fun _ => and_congr_right fun _ =>
      iff_of_true hmirrors.source_has hmirrors.copy_has :
      (name ≠ "" ∧ IsBindable name ∧ source.users.Has translation.userId) ↔
        name ≠ "" ∧ IsBindable name ∧ copy.users.Has user.id) .insertDevice
  refine hrequire.bind fun _ _ _ hpass _ => ?_
  obtain ⟨hgiven, hbindable, _⟩ := require_eq_ok_iff.mp hpass
  rw [hmirrors.find_device]
  cases hfind : copy.findDevice? user.id name with
  | some device => exact ⟨hmirrors, rfl, rfl⟩
  | none =>
      refine ⟨hmirrors.insert_device hgiven hbindable hfind, ?_, rfl⟩
      simp [Translation.device, Translation.deviceRow, Entry.rename, hmirrors.devices.next]

/-- A device is registered on both sides. -/
theorem Mirrors.register_device (hmirrors : Mirrors translation user source copy) (name : String) :
    Agree (Both translation user (SameRegistration translation))
      (source.registerDevice translation.userId name) (copy.registerDevice user.id name) := by
  unfold registerDevice
  refine (Agree.refl _).bind fun _ _ _ _ _ => ?_
  exact hmirrors.insert_device_agree name

/-- A device is updated on both sides. -/
theorem Loads.update_device (hloads : Loads translation user name source copy) (device : String)
    (caption kind : Option String) :
    Agree (Both translation user fun first second => first = translation.device second)
      (source.updateDevice name device caption kind)
      (copy.updateDevice name device caption kind) := by
  unfold updateDevice
  refine (Agree.refl _).bind fun _ _ _ _ _ => ?_
  refine (Agree.refl _).bind fun kind _ _ _ hkind => ?_
  subst hkind
  refine hloads.bind fun hmirrors => ?_
  refine bind_both (hmirrors.register_device device) fun _ _ hafter hregister => ?_
  unfold describeDevice
  dsimp only
  rw [hregister.1]
  refine (Agree.refl _).bind fun _ _ _ _ _ => ?_
  exact ⟨hafter.describe_device _ _ _, rfl⟩

/-- As many subscriptions are counted on both sides. -/
theorem Mirrors.count_subscriptions (hmirrors : Mirrors translation user source copy) :
    source.countSubscriptions translation.userId = copy.countSubscriptions user.id := by
  refine hmirrors.podcasts.count_eq (fun podcast _ hcounted => ?_) fun podcast hmem => ?_
  · exact (Bool.and_eq_true_iff.mp hcounted).1
  · rw [hmirrors.podcast_owner hmem]
    simp [Translation.podcastRow]

/-- The same devices are listed on both sides. -/
theorem Loads.list_devices (hloads : Loads translation user name source copy) :
    Agree
      (Kept translation user source copy fun first second => first = second.map fun summary =>
        ⟨translation.device summary.device, summary.subscriptions⟩)
      (source.listDevices name) (copy.listDevices name) := by
  unfold listDevices
  refine hloads.bind_kept fun hmirrors => ?_
  have hfilter : source.devices.entries.filter (fun device =>
        device.row.userId == translation.userId) =
      (copy.devices.entries.filter fun device => device.row.userId == user.id).map
        translation.device := by
    refine hmirrors.devices.filter_eq (fun _ _ => id) fun device hmem => ?_
    rw [hmirrors.device_owner hmem]
    simp [Translation.deviceRow]
  show List.map _ _ = List.map _ _
  rw [Translation.id_user, hfilter, hmirrors.count_subscriptions, sort_map fun _ _ => rfl,
    List.map_map, List.map_map]
  rfl

/-- Only the user has the device in the source. -/
theorem Mirrors.mine_of_device (hmirrors : Mirrors translation user source copy) {deviceId : Int}
    (hdevice : copy.HasDevice user.id deviceId) {ownerId : Int}
    (howner : source.HasDevice ownerId (translation.devices deviceId)) :
    ownerId = translation.userId :=
  howner.owner_unique (hmirrors.has_device hdevice)

/-- A device is destroyed on both sides, with as many rows concerned. -/
theorem Loads.destroy_device (hloads : Loads translation user name source copy) (device : String) :
    Agree (Both translation user Eq) (source.destroyDevice name device)
      (copy.destroyDevice name device) := by
  unfold destroyDevice
  refine hloads.bind fun hmirrors => ?_
  refine (hmirrors.load_device device).bind fun first second _ hload hdevice => ?_
  subst hdevice
  obtain ⟨hmem, howner, _⟩ := mem_of_find_device (load_device_ok hload)
  have hhas : copy.HasDevice user.id second.id := ⟨second, hmem, rfl, howner⟩
  have hdevices :
      source.devices.entries.countP (fun entry => entry.id == translation.devices second.id) =
        copy.devices.entries.countP fun entry => entry.id == second.id := by
    refine hmirrors.devices.count_eq (fun entry hentry hid => ?_)
      fun entry _ => beq_ids_iff entry.id second.id
    exact beq_iff_eq.mpr (hmirrors.mine_of_device hhas ⟨entry, hentry, beq_iff_eq.mp hid, rfl⟩)
  have hdetached :
      source.actions.entries.countP (fun action =>
          action.row.deviceId == some (translation.devices second.id)) =
        copy.actions.entries.countP fun action => action.row.deviceId == some second.id := by
    refine hmirrors.actions.count_eq (fun action haction hfrom => ?_)
      fun action _ => beq_reference_iff action.row.deviceId second.id
    -- An action from the device is the user's, because its podcast has the owner of its device.
    obtain ⟨ownerId, _, hplaces⟩ := hmirrors.source_consistent.actions_placed action haction
    have hmine := hmirrors.mine_of_device hhas (hplaces.device _ (beq_iff_eq.mp hfrom))
    exact owns_podcast_iff.mpr (hmine ▸ hplaces.podcast)
  have hsettings :
      source.settings.entries.countP (fun setting =>
          setting.row.target.device? == some (translation.devices second.id)) =
        copy.settings.entries.countP fun setting =>
          setting.row.target.device? == some second.id := by
    refine hmirrors.settings.count_eq (fun setting hsetting hof => ?_)
      fun setting _ => beq_device_target translation setting.row.target second.id
    obtain ⟨_, howns⟩ := hmirrors.source_consistent.settings_owned setting hsetting
    exact beq_iff_eq.mpr (hmirrors.mine_of_device hhas (howns.device _ (beq_iff_eq.mp hof)))
  refine ⟨hmirrors.end_device second.id, ?_⟩
  show DestroyedDevice.mk _ _ _ = DestroyedDevice.mk _ _ _
  exact (DestroyedDevice.mk.injEq ..).mpr ⟨hdevices, hdetached, hsettings⟩

end PodcastLedger.Store
