import Mathlib.Data.List.Sort
import PodcastLedger.Proofs.Isolation.Settings
import PodcastLedger.Proofs.Ledger.Reachability

/-!
# Settings as finite maps

The settings of a user and target bind keys to values. `Store.setting?` is the value of a key, and
what `Store.settingsOf` lists is determined by it (`Store.Consistent.lookup_settings_of`,
`Store.Consistent.settings_of_congr`). `Store.Rebinds` says what a change to the bindings of one
target does: the values of its keys change as given, and no other target notices.
-/

namespace PodcastLedger

/-- In a list with different keys, the value of a key is what stands beside it. -/
theorem lookup_eq_some_iff_mem {bindings : List (String × String)}
    (hkeys : (bindings.map Prod.fst).Nodup) {key value : String} :
    bindings.lookup key = some value ↔ (key, value) ∈ bindings := by
  induction bindings with
  | nil => simp
  | cons binding rest ih =>
      obtain ⟨first, text⟩ := binding
      obtain ⟨hnew, hrest⟩ := List.nodup_cons.mp hkeys
      rw [List.lookup_cons, List.mem_cons, Prod.mk.injEq]
      by_cases hkey : key = first
      · subst hkey
        have hother : (key, value) ∉ rest := fun hmem => hnew (List.mem_map.mpr ⟨_, hmem, rfl⟩)
        simp [hother, eq_comm]
      · simp [beq_false_of_ne hkey, hkey, ih hrest]

/-- The same list in another order binds the same values. -/
theorem lookup_perm {first second : List (String × String)} (hperm : first.Perm second)
    (hkeys : (second.map Prod.fst).Nodup) (key : String) : first.lookup key = second.lookup key := by
  refine Option.ext fun value => ?_
  rw [lookup_eq_some_iff_mem ((hperm.map Prod.fst).nodup_iff.mpr hkeys),
    lookup_eq_some_iff_mem hkeys, hperm.mem_iff]

namespace Store

variable {store middle next : Store} {userId ownerId : Int} {target place : Target}
  {key other value : String}

/-- The value of a setting. -/
def setting? (store : Store) (userId : Int) (target : Target) (key : String) : Option String :=
  (store.settings.find? (isSetting userId target key)).map (·.row.value)

/-- The setting is the one of a user, target and key exactly if it has all three. -/
theorem is_setting_iff {setting : Setting} :
    isSetting userId target key setting = true ↔
      setting.userId = userId ∧ setting.target = target ∧ setting.key = key := by
  simp only [isSetting, Bool.and_eq_true, beq_iff_eq, and_assoc]

/-! ## Listed settings -/

/-- The settings of a user and target in the order of insertion. -/
def bindings (store : Store) (userId : Int) (target : Target) : List (String × String) :=
  (store.settings.entries.filter fun setting =>
    setting.row.userId == userId && setting.row.target == target).map fun setting =>
      (setting.row.key, setting.row.value)

/-- What is listed are the settings in another order. -/
theorem settings_of_perm (store : Store) (userId : Int) (target : Target) :
    (store.settingsOf userId target).Perm (store.bindings userId target) :=
  List.mergeSort_perm _ _

/-- The settings of a user and target are those with the user and the target. -/
theorem mem_bindings :
    (key, value) ∈ store.bindings userId target ↔
      ∃ setting ∈ store.settings.entries,
        isSetting userId target key setting.row = true ∧ setting.row.value = value := by
  simp only [bindings, List.mem_map, List.mem_filter, Bool.and_eq_true, beq_iff_eq, Prod.mk.injEq,
    is_setting_iff, and_assoc]

/-- No key is bound twice. -/
theorem Consistent.nodup_bindings (hconsistent : store.Consistent) (userId : Int)
    (target : Target) : ((store.bindings userId target).map Prod.fst).Nodup := by
  have hunique : store.settings.entries.Pairwise fun first second =>
      first.row.columns ≠ second.row.columns := List.pairwise_map.mp hconsistent.settings_unique
  unfold bindings
  rw [List.map_map]
  refine List.pairwise_map.mpr ((hunique.filter _).imp_of_mem ?_)
  intro first second hfirst hsecond hcolumns hkey
  simp only [List.mem_filter, Bool.and_eq_true, beq_iff_eq] at hfirst hsecond
  refine hcolumns (Setting.columns_eq_iff.mpr (is_setting_iff.mpr ⟨?_, ?_, hkey⟩))
  · rw [hfirst.2.1, hsecond.2.1]
  · rw [hfirst.2.2, hsecond.2.2]

/-- The value of a key is the one that is bound to it. -/
theorem Consistent.setting_eq_some_iff (hconsistent : store.Consistent) :
    store.setting? userId target key = some value ↔
      (key, value) ∈ store.bindings userId target := by
  rw [mem_bindings]
  constructor
  · intro hvalue
    obtain ⟨setting, hfind, rfl⟩ := Option.map_eq_some_iff.mp hvalue
    obtain ⟨hmem, hsetting⟩ := Table.mem_of_find hfind
    exact ⟨setting, hmem, hsetting, rfl⟩
  · rintro ⟨setting, hmem, hsetting, rfl⟩
    unfold setting?
    cases hfind : store.settings.find? (isSetting userId target key) with
    | none =>
        rw [Table.find_eq_none_iff.mp hfind setting hmem] at hsetting
        cases hsetting
    | some found =>
        obtain ⟨hfound, hsame⟩ := Table.mem_of_find hfind
        obtain ⟨huser, htarget, hkey⟩ := is_setting_iff.mp hsetting
        have hcolumns : found.row.columns = setting.row.columns := by
          rw [Setting.columns_eq_iff, huser, htarget, hkey]
          exact hsame
        rw [hconsistent.settings_unique.eq hfound hmem hcolumns]
        rfl

/-- What is listed for a key is its value. -/
theorem Consistent.lookup_settings_of (hconsistent : store.Consistent) (userId : Int)
    (target : Target) (key : String) :
    (store.settingsOf userId target).lookup key = store.setting? userId target key := by
  have hkeys := hconsistent.nodup_bindings userId target
  refine Option.ext fun value => ?_
  rw [lookup_perm (store.settings_of_perm userId target) hkeys, lookup_eq_some_iff_mem hkeys,
    hconsistent.setting_eq_some_iff]

/-- Settings are listed in the order of their keys, each key once. -/
theorem Consistent.settings_of_ascending (hconsistent : store.Consistent) (userId : Int)
    (target : Target) :
    (store.settingsOf userId target).Pairwise fun first second => first.1 < second.1 :=
  Table.ascending_merge_sort Prod.fst
    (List.pairwise_map.mp (hconsistent.nodup_bindings userId target))

/-- Settings with the same values are listed the same. -/
theorem Consistent.settings_of_congr (hconsistent : store.Consistent) (hnext : next.Consistent)
    (hsame : ∀ key, next.setting? userId target key = store.setting? userId target key) :
    next.settingsOf userId target = store.settingsOf userId target := by
  refine Table.eq_of_ascending Prod.fst (hnext.settings_of_ascending userId target)
    (hconsistent.settings_of_ascending userId target) fun binding => ?_
  rw [(next.settings_of_perm userId target).mem_iff, (store.settings_of_perm userId target).mem_iff]
  obtain ⟨key, value⟩ := binding
  rw [← hnext.setting_eq_some_iff, ← hconsistent.setting_eq_some_iff, hsame]

/-! ## Changes of bindings -/

/-- The keys of a user and target get new values that depend on the old ones, and nothing else
changes. -/
structure Rebinds (userId : Int) (target : Target) (change : String → Option String → Option String)
    (store next : Store) : Prop where
  settings_only : next = { store with settings := next.settings }
  bound : ∀ key, next.setting? userId target key = change key (store.setting? userId target key)
  others : ∀ ownerId place key, (ownerId, place) ≠ (userId, target) →
    next.setting? ownerId place key = store.setting? ownerId place key

/-- Nothing changes. -/
theorem Rebinds.refl (store : Store) : Rebinds userId target (fun _ old => old) store store :=
  ⟨rfl, fun _ => rfl, fun _ _ _ _ => rfl⟩

/-- One change after the other. -/
theorem Rebinds.trans {first second : String → Option String → Option String}
    (hfirst : Rebinds userId target first store middle)
    (hsecond : Rebinds userId target second middle next) :
    Rebinds userId target (fun key old => second key (first key old)) store next where
  settings_only := by
    rw [hsecond.settings_only, hfirst.settings_only]
  bound key := by rw [hsecond.bound, hfirst.bound]
  others ownerId place key hother := by
    rw [hsecond.others ownerId place key hother, hfirst.others ownerId place key hother]

/-- The key gets the value, or none, and every other key keeps its own. -/
def rebind (key : String) (value? : Option String) (other : String) (old : Option String) :
    Option String :=
  if other = key then value? else old

/-- Settings in which one key has a value, or none, and all others are as they were. -/
theorem Rebinds.of_settings {settings : Table Setting} {value? : Option String}
    (hsame : (settings.find? (isSetting userId target key)).map (·.row.value) = value?)
    (hothers : ∀ ownerId place other, (ownerId, place, other) ≠ (userId, target, key) →
      (settings.find? (isSetting ownerId place other)).map (·.row.value) =
        store.setting? ownerId place other) :
    Rebinds userId target (rebind key value?) store { store with settings } where
  settings_only := rfl
  bound other := by
    unfold rebind
    split
    · next hkey =>
        subst hkey
        exact hsame
    · next hkey =>
        exact hothers userId target other fun hsame => hkey (congrArg (·.2.2) hsame)
  others ownerId place other hother :=
    hothers ownerId place other fun hsame =>
      hother (Prod.ext (congrArg (·.1) hsame) (congrArg (·.2.1) hsame))

/-- Settings of different users, targets or keys are different. -/
theorem not_is_setting {setting : Setting}
    (hother : (ownerId, place, other) ≠ (userId, target, key))
    (hsetting : isSetting ownerId place other setting = true) :
    isSetting userId target key setting = false := by
  refine Bool.eq_false_iff.mpr fun hsame => hother ?_
  obtain ⟨huser, htarget, hkey⟩ := is_setting_iff.mp hsetting
  obtain ⟨huser', htarget', hkey'⟩ := is_setting_iff.mp hsame
  rw [← huser, ← htarget, ← hkey, huser', htarget', hkey']

/-- To give a setting a value succeeds and binds its key to the value. -/
theorem upsert_setting_rebinds (hkey : key ≠ "" ∧ IsBindable key)
    (hvalue : value ≠ "" ∧ IsBindable value) (huser : store.users.Has userId)
    (htarget : store.HasTarget target) :
    ∃ next, store.upsertSetting userId target key value = .ok next ∧
      Rebinds userId target (rebind key (some value)) store next := by
  unfold upsertSetting
  rw [require_of ⟨hkey.1, hkey.2, hvalue.1, hvalue.2, huser, htarget⟩]
  cases hfind : store.settings.find? (isSetting userId target key) with
  | some found =>
      have hmodify (ownerId : Int) (place : Target) (other : String) :=
        (Table.find_modify fun _ => rfl :
          (store.settings.modify (fun entry => isSetting userId target key entry.row)
              fun setting => { setting with value }).find? (isSetting ownerId place other) = _)
      refine ⟨_, rfl, Rebinds.of_settings ?_ fun ownerId place other hother => ?_⟩
      · rw [hmodify, hfind, Option.map_some, if_pos (Table.mem_of_find hfind).2]
        rfl
      · rw [hmodify, Option.map_map]
        unfold setting?
        refine Option.map_congr fun entry hentry => ?_
        rw [Function.comp_apply,
          if_neg (Bool.eq_false_iff.mp (not_is_setting hother (Table.mem_of_find hentry).2))]
  | none =>
      have hself : isSetting userId target key ⟨userId, target, key, value⟩ = true :=
        is_setting_iff.mpr ⟨rfl, rfl, rfl⟩
      refine ⟨_, rfl, Rebinds.of_settings ?_ fun ownerId place other hother => ?_⟩
      · rw [Table.find_insert_new hfind hself]
        rfl
      · have hnew : isSetting ownerId place other ⟨userId, target, key, value⟩ ≠ true :=
          fun hsetting => hother (by
            obtain ⟨huser, htarget, hkey⟩ := is_setting_iff.mp hsetting
            rw [← huser, ← htarget, ← hkey])
        rw [Table.find_insert, if_neg hnew, Option.or_none]
        rfl

/-- To remove a setting succeeds and leaves its key without a value. -/
theorem remove_setting_rebinds (hkey : IsBindable key) :
    ∃ next, store.removeSetting userId target key = .ok next ∧
      Rebinds userId target (rebind key none) store next := by
  unfold removeSetting
  rw [require_of hkey]
  refine ⟨_, rfl, Rebinds.of_settings ?_ fun ownerId place other hother => ?_⟩
  · rw [Table.find_eq_none_iff.mpr fun entry hmem => (Table.mem_remove.mp hmem).2]
    rfl
  · rw [Table.find_remove fun entry hsetting => not_is_setting hother hsetting]
    rfl

end Store

end PodcastLedger
