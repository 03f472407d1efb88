import PodcastLedger.Proofs.Canonical.Storable
import PodcastLedger.Proofs.Settings.Bindings
import PodcastLedger.Proofs.Statements.Plain

/-!
# What saving settings does

The settings of a user and target are a finite map, and `Store.save_settings_exact` says what saving
makes of it: each key that is set gets its value, or none if the value is empty, each key that is
removed gets none, and nothing else changes in the store. Input that breaks a rule is refused before
anything is looked up.
-/

namespace PodcastLedger

/-- A key is empty, or one is both set and removed. -/
def BreaksRules (assignments : List (String × String)) (removals : List String) : Prop :=
  "" ∈ assignments.map Prod.fst ∨ "" ∈ removals ∨
    ∃ key ∈ removals, key ∈ assignments.map Prod.fst

/-- Broken rules are found by going through the keys. -/
instance (assignments : List (String × String)) (removals : List String) :
    Decidable (BreaksRules assignments removals) :=
  inferInstanceAs (Decidable (_ ∨ _ ∨ ∃ key ∈ removals, key ∈ assignments.map Prod.fst))

/-- The value of a key after keys were set. An empty value is none. -/
def assigned (assignments : List (String × String)) (key : String) (old : Option String) :
    Option String :=
  match assignments.lookup key with
  | some value => if value = "" then none else some value
  | none => old

/-- The value of a key after keys were set and others removed. -/
def saved (assignments : List (String × String)) (removals : List String) (key : String)
    (old : Option String) : Option String :=
  if key ∈ removals then none else assigned assignments key old

/-- The outcome is not that the input breaks a rule. -/
def Accepted {Result : Type} (outcome : Except Failure Result) : Prop :=
  ∀ violation, outcome ≠ .error (.invalid violation)

variable {First Second : Type}

/-- A result is accepted. -/
theorem accepted_ok (result : First) : Accepted (.ok result) :=
  nofun

/-- A sequence of accepted steps is accepted. -/
theorem Accepted.bind {outcome : Except Failure First} {next : First → Except Failure Second}
    (hfirst : Accepted outcome) (hnext : ∀ value, Accepted (next value)) :
    Accepted (outcome >>= next) := by
  cases outcome with
  | error failure =>
      intro violation h
      cases h
      exact hfirst violation rfl
  | ok value => exact hnext value

namespace Store

variable {store next : Store} {userId : Int} {target : Target} {name : String} {key : SettingsKey}
  {assignments values : List (String × String)} {removals : List String}

/-! ## Rules -/

/-- Input that breaks a rule is found out. -/
theorem validate_assignments_of_breaks (hbreaks : BreaksRules assignments removals) :
    ∃ violation, validateAssignments assignments removals = .error (.invalid violation) := by
  unfold validateAssignments
  dsimp only
  split
  · exact ⟨_, rfl⟩
  · next hgiven =>
      split
      · exact ⟨_, rfl⟩
      · next hnone =>
          exfalso
          obtain hempty | hempty | ⟨key, hremoved, hset⟩ := hbreaks
          · exact hgiven (List.mem_append_left _ hempty)
          · exact hgiven (List.mem_append_right _ hempty)
          · exact List.find?_eq_none.mp hnone key hremoved (List.contains_iff_mem.mpr hset)

/-- Input that breaks no rule is valid. -/
theorem validate_assignments_of_keeps (hkeeps : ¬ BreaksRules assignments removals) :
    validateAssignments assignments removals = .ok () := by
  unfold validateAssignments
  dsimp only
  split
  · next hempty =>
      refine absurd ?_ hkeeps
      rcases List.mem_append.mp hempty with hset | hremoved
      · exact .inl hset
      · exact .inr (.inl hremoved)
  · split
    · next key hfind =>
        refine absurd (.inr (.inr ⟨key, List.mem_of_find?_eq_some hfind, ?_⟩)) hkeeps
        exact List.contains_iff_mem.mp (List.find?_some hfind)
    · rfl

/-- What the store refuses is not said to break a rule. -/
theorem accepted_require {condition : Prop} [Decidable condition] {statement : Statement} :
    Accepted (require condition statement) := by
  unfold require
  split <;> exact nofun

/-- A user is loaded or not known, if a name is given. -/
theorem accepted_load_user (hname : name ≠ "") : Accepted (store.loadUser name) := by
  unfold loadUser
  rw [if_neg hname]
  refine accepted_require.bind fun _ => ?_
  split <;> exact nofun

/-- A podcast is selected or the store refuses. -/
theorem accepted_select_raw_podcast (raw : String) :
    Accepted (store.selectRawPodcast userId raw) := by
  rw [select_raw_podcast_eq]
  exact accepted_ok _

/-- The podcast of a key is found or not known. -/
theorem accepted_resolve_podcast (raw : String) : Accepted (store.resolvePodcast userId raw) := by
  refine (accepted_select_raw_podcast raw).bind fun podcast? => ?_
  cases podcast? <;> exact nofun

/-- An episode is selected or the store refuses. -/
theorem accepted_select_episode (podcastId : Int) (text : String) :
    Accepted (store.selectEpisode podcastId text) :=
  accepted_require.bind fun _ => accepted_ok _

/-- The episode of a key is found or not known. -/
theorem accepted_resolve_episode (podcastId : Int) (raw : String) :
    Accepted (store.resolveEpisode podcastId raw) := by
  have hraw : Accepted (store.selectRawEpisode podcastId raw) := by
    unfold selectRawEpisode
    split
    · exact accepted_select_episode _ _
    · exact accepted_ok _
  refine hraw.bind fun first? => ?_
  cases first? with
  | some episode => exact accepted_ok _
  | none =>
      refine (accepted_select_episode podcastId raw).bind fun second? => ?_
      cases second? <;> exact nofun

/-- A key names something or nothing that is known. -/
theorem accepted_resolve_key (key : SettingsKey) : Accepted (store.resolveKey userId key) := by
  cases key with
  | account => exact accepted_ok _
  | device name =>
      refine Accepted.bind ?_ fun _ => accepted_ok _
      refine (accepted_require.bind fun _ => accepted_ok _).bind fun device? => ?_
      cases device? <;> exact nofun
  | episode podcastRaw raw =>
      exact (accepted_resolve_podcast podcastRaw).bind fun podcast =>
        (accepted_resolve_episode podcast.id raw).bind fun _ => accepted_ok _
  | podcast raw => exact (accepted_resolve_podcast raw).bind fun _ => accepted_ok _

/-- A setting is removed or the store refuses. -/
theorem accepted_remove_setting (key : String) :
    Accepted (store.removeSetting userId target key) :=
  accepted_require.bind fun _ => accepted_ok _

/-- A setting gets a value or the store refuses. -/
theorem accepted_upsert_setting (key value : String) :
    Accepted (store.upsertSetting userId target key value) := by
  refine accepted_require.bind fun _ => ?_
  split <;> exact nofun

/-- Keys are set or the store refuses. -/
theorem accepted_assign_settings (assignments : List (String × String)) :
    Accepted (store.assignSettings userId target assignments) := by
  induction assignments generalizing store with
  | nil => exact accepted_ok _
  | cons assignment rest ih =>
      unfold assignSettings
      dsimp only
      split
      · exact (accepted_remove_setting _).bind fun _ => ih
      · exact (accepted_upsert_setting _ _).bind fun _ => ih

/-- Keys are removed or the store refuses. -/
theorem accepted_remove_settings (keys : List String) :
    Accepted (store.removeSettings userId target keys) := by
  induction keys generalizing store with
  | nil => exact accepted_ok _
  | cons key rest ih => exact (accepted_remove_setting _).bind fun _ => ih

/-- Input breaks a rule exactly if that is what saving answers. -/
theorem breaks_rules_iff (hname : name ≠ "") :
    BreaksRules assignments removals ↔
      ∃ violation, store.saveSettings name key assignments removals =
        .error (.invalid violation) := by
  constructor
  · intro hbreaks
    obtain ⟨violation, hvalidate⟩ := validate_assignments_of_breaks hbreaks
    refine ⟨violation, ?_⟩
    unfold saveSettings
    rw [hvalidate]
    rfl
  · rintro ⟨violation, hsave⟩
    by_contra hkeeps
    have haccepted : Accepted (store.saveSettings name key assignments removals) := by
      unfold saveSettings
      rw [validate_assignments_of_keeps hkeeps]
      refine (accepted_ok _).bind fun _ => (accepted_load_user hname).bind fun user =>
        (accepted_resolve_key key).bind fun resolved => ?_
      exact (accepted_assign_settings _).bind fun _ => (accepted_remove_settings _).bind fun _ =>
        accepted_ok _
    exact haccepted violation hsave

/-! ## Values -/

/-- Keys that can be stored are set one after the other, and each key gets its value. -/
theorem assign_settings_rebinds (huser : store.users.Has userId) (htarget : store.HasTarget target)
    (hkeys : (assignments.map Prod.fst).Nodup)
    (htexts : ∀ assignment ∈ assignments,
      assignment.1 ≠ "" ∧ IsBindable assignment.1 ∧ IsBindable assignment.2) :
    ∃ next, store.assignSettings userId target assignments = .ok next ∧
      Rebinds userId target (assigned assignments) store next := by
  induction assignments generalizing store with
  | nil => exact ⟨store, rfl, Rebinds.refl store⟩
  | cons assignment rest ih =>
      obtain ⟨key, value⟩ := assignment
      obtain ⟨hnew, hrest⟩ := List.nodup_cons.mp hkeys
      obtain ⟨⟨hgiven, hkey, hvalue⟩, htexts⟩ := List.forall_mem_cons.mp htexts
      -- The key does not come again, so what it gets now is what it keeps.
      have hchange : (fun other old => assigned rest other
          (rebind key (if value = "" then none else some value) other old)) =
          assigned ((key, value) :: rest) := by
        funext other old
        unfold assigned rebind
        rw [List.lookup_cons]
        by_cases hother : other = key
        · subst hother
          have hnone : rest.lookup other = none := by
            rw [List.lookup_eq_none_iff]
            rintro binding hmem
            exact bne_iff_ne.mpr fun heq => hnew (List.mem_map.mpr ⟨binding, hmem, heq.symm⟩)
          simp [hnone]
        · simp [beq_false_of_ne hother, hother]
      have hstep : ∃ middle,
          (if value = "" then store.removeSetting userId target key
            else store.upsertSetting userId target key value) = .ok middle ∧
          Rebinds userId target (rebind key (if value = "" then none else some value)) store
            middle := by
        split
        · exact remove_setting_rebinds hkey
        · next hvalue' => exact upsert_setting_rebinds ⟨hgiven, hkey⟩ ⟨hvalue', hvalue⟩ huser htarget
      obtain ⟨middle, hmiddle, hfirst⟩ := hstep
      have hsettings := hfirst.settings_only
      have huser : middle.users.Has userId := by
        rw [hsettings]
        exact huser
      have htarget : middle.HasTarget target := by
        rw [hsettings]
        exact htarget
      obtain ⟨next, hnext, hsecond⟩ := ih huser htarget hrest htexts
      refine ⟨next, ?_, hchange ▸ hfirst.trans hsecond⟩
      unfold assignSettings
      dsimp only
      split <;> rename_i hempty
      · rw [if_pos hempty] at hmiddle
        rw [hmiddle]
        exact hnext
      · rw [if_neg hempty] at hmiddle
        rw [hmiddle]
        exact hnext

/-- Keys are removed one after the other, and none has a value then. -/
theorem remove_settings_rebinds (htexts : ∀ key ∈ removals, IsBindable key) :
    ∃ next, store.removeSettings userId target removals = .ok next ∧
      Rebinds userId target (fun key old => if key ∈ removals then none else old) store next := by
  induction removals generalizing store with
  | nil => exact ⟨store, rfl, by simpa using Rebinds.refl store⟩
  | cons key rest ih =>
      obtain ⟨hkey, hrest⟩ := List.forall_mem_cons.mp htexts
      obtain ⟨middle, hmiddle, hfirst⟩ := remove_setting_rebinds hkey
      obtain ⟨next, hnext, hsecond⟩ := ih hrest
      refine ⟨next, ?_, ?_⟩
      · unfold removeSettings
        rw [hmiddle]
        exact hnext
      · have hchange : (fun other old => if other ∈ rest then none else rebind key none other old) =
            fun other old => if other ∈ key :: rest then none else old := by
          funext other old
          unfold rebind
          by_cases hother : other = key <;> simp [hother]
        exact hchange ▸ hfirst.trans hsecond

/-- What saving does to the settings of a user and target, which had some values before and have
others after it. -/
structure Saved (store next : Store) (userId : Int) (target : Target)
    (assignments : List (String × String)) (removals : List String)
    (previous values : List (String × String)) : Prop where
  settings_only : next = { store with settings := next.settings }
  ascending : values.Pairwise fun first second => first.1 < second.1
  bound : ∀ key, values.lookup key = saved assignments removals key (previous.lookup key)
  others : ∀ ownerId place, (ownerId, place) ≠ (userId, target) →
    next.settingsOf ownerId place = store.settingsOf ownerId place

/-- Saving leaves the store consistent. -/
theorem Consistent.saving (hconsistent : store.Consistent) {user : Entry User}
    (hmem : user ∈ store.users.entries) {values : List (String × String)}
    (hsave : store.saveSettings user.row.name key assignments removals = .ok (next, values)) :
    next.Consistent := by
  have hwrites : ∃ found, store.findUser? user.row.name = some found ∧
      Writes found.id none store next := save_settings_ok hsave
  rw [hconsistent.find_user hmem] at hwrites
  obtain ⟨_, hfound, hwrites⟩ := hwrites
  cases hfound
  exact hconsistent.writes (Table.has_of_mem hmem) hwrites

/-- Saving succeeds if the user is there, the key names something, no rule is broken and all texts
can be stored. -/
theorem Consistent.save_settings (hconsistent : store.Consistent) {user : Entry User}
    (hmem : user ∈ store.users.entries) {resolved : ResolvedKey}
    (hresolve : store.resolveKey user.id key = .ok resolved)
    (hkeys : (assignments.map Prod.fst).Nodup) (hkeeps : ¬ BreaksRules assignments removals)
    (hset : ∀ assignment ∈ assignments, IsBindable assignment.1 ∧ IsBindable assignment.2)
    (hremoved : ∀ text ∈ removals, IsBindable text) :
    ∃ next, store.saveSettings user.row.name key assignments removals =
        .ok (next, next.settingsOf user.id resolved.target) ∧
      store.Saved next user.id resolved.target assignments removals
        (store.settingsOf user.id resolved.target) (next.settingsOf user.id resolved.target) := by
  have hload := hconsistent.load_user hmem
  have huser := Table.has_of_mem hmem
  have hsorted : (assignments.mergeSort fun first second =>
      decide (first.1 ≤ second.1)).Perm assignments := List.mergeSort_perm _ _
  have hgiven : ∀ assignment ∈ assignments, assignment.1 ≠ "" := fun assignment hassignment hempty =>
    hkeeps (.inl (List.mem_map.mpr ⟨assignment, hassignment, hempty⟩))
  obtain ⟨middle, hassign, hfirst⟩ := assign_settings_rebinds huser
    (resolve_key_ok hresolve).has_target ((hsorted.map Prod.fst).nodup_iff.mpr hkeys)
    fun assignment hassignment =>
      have hassignment := hsorted.mem_iff.mp hassignment
      ⟨hgiven assignment hassignment, hset assignment hassignment⟩
  have hremoves : ∃ next, middle.removeSettings user.id resolved.target removals = .ok next ∧
      Rebinds user.id resolved.target (fun key old => if key ∈ removals then none else old) middle
        next := remove_settings_rebinds hremoved
  obtain ⟨next, hremove, hsecond⟩ := hremoves
  have hrebinds := hfirst.trans hsecond
  have hsave : store.saveSettings user.row.name key assignments removals =
      .ok (next, next.settingsOf user.id resolved.target) := by
    unfold saveSettings
    rw [validate_assignments_of_keeps hkeeps, hload]
    simp only [Bind.bind, Except.bind, hresolve, hassign, hremove]
  have hnext := hconsistent.saving hmem hsave
  refine ⟨next, hsave, hrebinds.settings_only, hnext.settings_of_ascending _ _, fun key => ?_,
    fun ownerId place hother => ?_⟩
  · rw [hnext.lookup_settings_of, hconsistent.lookup_settings_of, hrebinds.bound]
    unfold saved assigned
    rw [lookup_perm hsorted hkeys]
  · exact hconsistent.settings_of_congr hnext fun key => hrebinds.others ownerId place key hother

/-- What a key names does not depend on the settings, so reading a store with other settings reads
those of the same target. -/
theorem get_settings_of_resolved (hsettings : next = { store with settings := next.settings })
    {user : Entry User} (hload : store.loadUser name = .ok user) {resolved : ResolvedKey}
    (hresolve : store.resolveKey user.id key = .ok resolved) :
    next.getSettings name key = .ok (next.settingsOf user.id resolved.target) := by
  have hnextLoad : next.loadUser name = .ok user := by
    rw [hsettings]
    exact hload
  have hnextResolve : next.resolveKey user.id key = .ok resolved := by
    rw [hsettings]
    exact hresolve
  unfold getSettings
  simp only [hnextLoad, hnextResolve, Bind.bind, Except.bind]

/-- The settings are a finite map for each thing that a key names. Saving is refused because of the
input exactly if a key is empty or both set and removed, whatever else is the case. Otherwise, if the
user is there and the key names something, it succeeds: the map gets the values that are set, without
the empty ones, loses what is removed, and keeps the rest; the next reading gives the same map. All
keys that name the same thing read and write the same map, and the maps of other things and all other
tables stay. The statements on the table, which find a setting by its columns or by its place in the
unique index, read and save the same. -/
theorem save_settings_exact (hreachable : store.Reachable) (hname : name ≠ "")
    (hkeys : (assignments.map Prod.fst).Nodup) :
    (BreaksRules assignments removals ↔ ∃ violation,
      store.saveSettings name key assignments removals = .error (.invalid violation)) ∧
    (BreaksRules assignments removals → ∃ violation, ∀ (anyStore : Store) anyName anyKey,
      anyStore.saveSettings anyName anyKey assignments removals = .error (.invalid violation)) ∧
    store.saveByStatements name key assignments removals =
      store.saveSettings name key assignments removals ∧
    store.getByStatements name key = store.getSettings name key ∧
    ∀ user ∈ store.users.entries, user.row.name = name →
      ∀ resolved, store.resolveKey user.id key = .ok resolved →
      ¬ BreaksRules assignments removals →
      (∀ assignment ∈ assignments, IsBindable assignment.1 ∧ IsBindable assignment.2) →
      (∀ text ∈ removals, IsBindable text) →
      ∃ previous next values,
        store.getSettings name key = .ok previous ∧
        store.saveSettings name key assignments removals = .ok (next, values) ∧
        next.getSettings name key = .ok values ∧
        store.Saved next user.id resolved.target assignments removals previous values ∧
        (∀ same sameResolved, store.resolveKey user.id same = .ok sameResolved →
          sameResolved.target = resolved.target →
          store.getSettings name same = .ok previous ∧
            store.saveSettings name same assignments removals = .ok (next, values) ∧
            next.getSettings name same = .ok values) ∧
        ∀ owner ∈ store.users.entries, ∀ other otherResolved,
          store.resolveKey owner.id other = .ok otherResolved →
          (owner.id, otherResolved.target) ≠ (user.id, resolved.target) →
          next.getSettings owner.row.name other = store.getSettings owner.row.name other := by
  have hconsistent := hreachable.consistent
  refine ⟨breaks_rules_iff hname, fun hbreaks => ?_, hconsistent.save_by_statements name key _ _,
    get_by_statements_eq store name key, ?_⟩
  · obtain ⟨violation, hvalidate⟩ := validate_assignments_of_breaks hbreaks
    refine ⟨violation, fun anyStore anyName anyKey => ?_⟩
    unfold saveSettings
    rw [hvalidate]
    rfl
  · rintro user hmem rfl resolved hresolve hkeeps hset hremoved
    have hload := hconsistent.load_user hmem
    obtain ⟨next, hsave, hsaved⟩ :=
      hconsistent.save_settings hmem hresolve hkeys hkeeps hset hremoved
    have hread {same : SettingsKey} {sameResolved : ResolvedKey}
        (hsame : store.resolveKey user.id same = .ok sameResolved)
        (htarget : sameResolved.target = resolved.target) :
        store.getSettings user.row.name same = .ok (store.settingsOf user.id resolved.target) ∧
          next.getSettings user.row.name same = .ok (next.settingsOf user.id resolved.target) := by
      rw [get_settings_of_resolved rfl hload hsame,
        get_settings_of_resolved hsaved.settings_only hload hsame, htarget]
      exact ⟨rfl, rfl⟩
    obtain ⟨hbefore, hafter⟩ := hread hresolve rfl
    refine ⟨_, next, _, hbefore, hsave, hafter, hsaved, fun same sameResolved hsame htarget => ?_,
      fun owner howner other otherResolved hother hdifferent => ?_⟩
    · refine ⟨(hread hsame htarget).1, ?_, (hread hsame htarget).2⟩
      rw [← hsave]
      unfold saveSettings
      simp only [hload, hsame, hresolve, htarget, Bind.bind, Except.bind]
    · have hownerLoad := hconsistent.load_user howner
      rw [get_settings_of_resolved hsaved.settings_only hownerLoad hother,
        get_settings_of_resolved rfl hownerLoad hother, hsaved.others _ _ hdifferent]

/-- A user acts on an episode that has an identifier. -/
def episodeWithGuid : List (String × Request) :=
  [("ann", .createUser "long enough" 10),
    ("ann", .addActions [⟨"download", none, "http://a.example/1", some "episode-1",
      "http://a.example/feed", none, none, .ofUnix 1000, none⟩])]

/-- Settings of an episode are saved under its identifier and read under its address, which is
written in another way. Those of the podcast stay. -/
theorem save_settings_by_guid :
    let store := (Store.empty.run episodeWithGuid).1
    let byGuid := SettingsKey.episode "http://a.example/feed" "episode-1"
    let byUrl := SettingsKey.episode "HTTP://A.example/feed#top" "a.example:80/1"
    ∃ next values, store.saveSettings "ann" byGuid [("volume", ""), ("speed", "2")] ["skip"] =
        .ok (next, values) ∧
      values.lookup "speed" = some "2" ∧ values.lookup "volume" = none ∧
      next.getSettings "ann" byGuid = .ok values ∧ next.getSettings "ann" byUrl = .ok values ∧
      next.getSettings "ann" (.podcast "http://a.example/feed") =
        store.getSettings "ann" (.podcast "http://a.example/feed") := by
  intro store byGuid byUrl
  have hmem : (⟨1, "ann", false, 10⟩ : Entry User) ∈ store.users.entries := by decide +kernel
  let podcast : Entry Podcast := ⟨1, .fresh 1 "http://a.example/feed"⟩
  let episode : Entry Episode := ⟨1, 1, "http://a.example/1", some "episode-1"⟩
  have hresolve : store.resolveKey 1 byGuid = .ok (.episode podcast episode) := by decide +kernel
  have hsame : store.resolveKey 1 byUrl = .ok (.episode podcast episode) := by decide +kernel
  have hother : store.resolveKey 1 (.podcast "http://a.example/feed") = .ok (.podcast podcast) := by
    decide +kernel
  have hkeys : ([("volume", ""), ("speed", "2")].map Prod.fst).Nodup := by decide
  have hkeeps : ¬ BreaksRules [("volume", ""), ("speed", "2")] ["skip"] := by decide
  obtain ⟨_, _, _, _, hexact⟩ :=
    save_settings_exact (Reachable.empty.run episodeWithGuid) (by decide : "ann" ≠ "") hkeys
  obtain ⟨previous, next, values, _, hsave, hread, hsaved, hkey, hothers⟩ :=
    hexact _ hmem rfl _ hresolve hkeeps (by decide) (by decide)
  refine ⟨next, values, hsave, ?_, ?_, hread, (hkey _ _ hsame rfl).2.2,
    hothers _ hmem _ _ hother (by decide)⟩
  · rw [hsaved.bound]
    rfl
  · rw [hsaved.bound]
    rfl

end Store

end PodcastLedger
