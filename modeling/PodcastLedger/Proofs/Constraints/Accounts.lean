import PodcastLedger.Proofs.Constraints.Conformity

/-!
# Accounts, devices and settings under constraints

Accounts, devices and settings by guarded statements. Creating, describing and saving keep all ids and
have the outcome of plain statements (such as `Guarded.save_settings_performs`). Deletions go from the
leaves up and take along what still refers to deleted rows, so that every single one passes
(`Guarded.destroy_user_conforms`).
-/

namespace PodcastLedger.Guarded

open RowStatements (guarded plain)

variable {store : Store} {userId : Int} {target : Target}

/-! ## Accounts -/

/-- The creation of an account is performed. -/
theorem create_user_performs (hconstrained : store.Constrained) (name password : String)
    (workFactor : Nat) :
    Performs store (guarded.createUser name password workFactor)
      (plain.createUser name password workFactor) := by
  refine .after fun _ hvalid => ?_
  have hname : IsName name := validateName_eq_ok_iff.mp hvalid
  split
  · exact .error _
  split
  · exact .error _
  refine (is_taken_performs hconstrained hname.bindable).bind fun next isTaken htaken hnext => ?_
  obtain ⟨rfl, rfl⟩ := Prod.mk.inj (Except.ok.inj htaken)
  split
  · exact .error _
  · next hfree => exact insert_user_performs hconstrained hname (by simpa using hfree)

/-- The end of an account passes: each deletion takes along what still refers to deleted rows. -/
theorem destroy_user_conforms (hconstrained : store.Constrained) (name : String) :
    Conforms Store.Constrained store (guarded.destroyUser name) (plain.destroyUser name) := by
  refine .seen fun user _ => ?_
  have hsettings := hconstrained.delete_settings fun setting => setting.row.userId == user.id
  have hactions := hsettings.delete_actions fun action =>
    store.ownsPodcast user.id action.row.podcastId
  have hepisodes := hactions.delete_episodes fun episode =>
    store.ownsPodcast user.id episode.row.podcastId
  have hpodcasts := hepisodes.delete_podcasts fun podcast => podcast.row.userId == user.id
  have hdevices := hpodcasts.delete_devices fun device => device.row.userId == user.id
  have husers := hdevices.delete_users fun entry => entry.id == user.id
  exact .alter hsettings <| .alter hactions <| .alter hepisodes <| .alter hpodcasts <|
    .alter hdevices <| .alter husers <| .pure husers _

/-! ## Devices -/

/-- The update of a device is performed. -/
theorem update_device_performs (hconstrained : store.Constrained) (userName name : String)
    (caption kind : Option String) :
    Performs store (guarded.updateDevice userName name caption kind)
      (plain.updateDevice userName name caption kind) := by
  refine .after fun _ _ => .after fun kind _ => .seen fun user _ => ?_
  refine (register_device_performs hconstrained user.id name).bind
    fun registered registration hregister hregistered => ?_
  obtain ⟨_, hmem, _⟩ : Store.Growth user.id none store registered ∧
      registration.device ∈ registered.devices.entries ∧
      registration.device.row.userId = user.id := Store.register_device_ok hregister
  exact describe_device_performs hregistered.constrained hmem _ _

/-- The end of a device passes: nothing refers to it when it goes. -/
theorem destroy_device_conforms (hconstrained : store.Constrained) (userName name : String) :
    Conforms Store.Constrained store (guarded.destroyDevice userName name)
      (plain.destroyDevice userName name) := by
  refine .seen fun user _ => .seen fun device _ => ?_
  have hdetached := hconstrained.detach_actions fun action =>
    action.row.deviceId == some device.id
  have hsettings := hdetached.delete_settings fun setting =>
    setting.row.target.device? == some device.id
  have hdevice := hsettings.delete_devices fun entry => entry.id == device.id
  exact .alter hdetached <| .alter hsettings <| .alter hdevice <| .pure hdevice _

/-! ## Settings -/

/-- Keys are set as expected. -/
theorem assign_settings_performs (hconstrained : store.Constrained)
    (assignments : List (String × String)) :
    Performs store (guarded.assignSettings userId target assignments)
      (plain.assignSettings userId target assignments) := by
  induction assignments generalizing store with
  | nil => exact .pure hconstrained ()
  | cons assignment rest ih =>
      obtain ⟨key, value⟩ := assignment
      unfold RowStatements.assignSettings
      dsimp only
      split
      · exact (remove_setting_performs hconstrained userId target key).bind
          fun next _ _ hnext => ih hnext.constrained
      · exact (upsert_setting_performs hconstrained userId target key value).bind
          fun next _ _ hnext => ih hnext.constrained

/-- Keys are removed as expected. -/
theorem remove_settings_performs (hconstrained : store.Constrained) (keys : List String) :
    Performs store (guarded.removeSettings userId target keys)
      (plain.removeSettings userId target keys) := by
  induction keys generalizing store with
  | nil => exact .pure hconstrained ()
  | cons key rest ih =>
      exact (remove_setting_performs hconstrained userId target key).bind
        fun next _ _ hnext => ih hnext.constrained

/-- Settings are saved as expected. -/
theorem save_settings_performs (hconstrained : store.Constrained) (userName : String)
    (key : SettingsKey) (assignments : List (String × String)) (removals : List String) :
    Performs store (guarded.saveSettings userName key assignments removals)
      (plain.saveSettings userName key assignments removals) := by
  refine .after fun _ _ => .seen fun user _ => .seen fun resolved _ => ?_
  refine (assign_settings_performs hconstrained _).bind fun assigned _ _ hassigned => ?_
  exact (remove_settings_performs hassigned.constrained removals).bind
    fun last _ _ hlast => .read (.refl hlast.constrained) _

end PodcastLedger.Guarded
