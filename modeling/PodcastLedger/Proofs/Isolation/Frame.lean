import PodcastLedger.Proofs.Isolation.Mirroring

/-!
# Steps of other users

What other users do leaves the rows of a user as they are: `Store.SameFor` holds between the store
before and the store after. It only moves the ids that rows will get, and the translation of ids can
be moved along, so a mirror of the store stays one: `Store.Mirrors.of_same_for`.
-/

namespace PodcastLedger

namespace Table

variable {Row : Type} {mine mine' : Entry Row → Bool} {table next : Table Row}

/-- A table is the same as itself on any of its rows. -/
theorem SameOn.refl (mine : Entry Row → Bool) (table : Table Row) : SameOn mine mine table table :=
  ⟨rfl, Int.le_refl _⟩

/-- What stays the same through two changes of a table stays the same. -/
theorem SameOn.trans {middle : Table Row} {mine'' : Entry Row → Bool}
    (hfirst : SameOn mine mine' table middle) (hrest : SameOn mine' mine'' middle next) :
    SameOn mine mine'' table next :=
  ⟨hrest.entries.trans hfirst.entries, Int.le_trans hfirst.next hrest.next⟩

/-- Only which rows are `mine` afterwards matters. -/
theorem SameOn.congr_mine {mine'' : Entry Row → Bool} (hsame : SameOn mine mine' table next)
    (hmine : ∀ entry ∈ next.entries, mine'' entry = mine' entry) :
    SameOn mine mine'' table next :=
  ⟨(List.filter_congr hmine).trans hsame.entries, hsame.next⟩

/-- A row that is not `mine` is inserted. -/
theorem SameOn.insert (row : Row) (hother : mine ⟨table.next, row⟩ = false) :
    SameOn mine mine table (table.insert row) where
  entries := by
    rw [entries_insert, List.filter_append, List.filter_cons_of_neg (by simp [hother]),
      List.filter_nil, List.append_nil]
  next := Int.le_of_lt (Int.lt_succ _)

/-- Rows that are not `mine` are changed and stay so. -/
theorem SameOn.modify {condition : Entry Row → Bool} {change : Row → Row}
    (hother : ∀ entry ∈ table.entries, condition entry = true →
      mine entry = false ∧ mine ⟨entry.id, change entry.row⟩ = false) :
    SameOn mine mine table (table.modify condition change) where
  entries := by
    have hlist : ∀ entries : List (Entry Row), (∀ entry ∈ entries, condition entry = true →
        mine entry = false ∧ mine ⟨entry.id, change entry.row⟩ = false) →
        (entries.map fun entry =>
          if condition entry then ⟨entry.id, change entry.row⟩ else entry).filter mine =
          entries.filter mine := by
      intro entries hentries
      induction entries with
      | nil => rfl
      | cons entry rest ih =>
          obtain ⟨hentry, hrest⟩ := List.forall_mem_cons.mp hentries
          rw [List.map_cons, List.filter_cons, List.filter_cons, ih hrest]
          split
          · next hcondition =>
              obtain ⟨hbefore, hafter⟩ := hentry hcondition
              rw [hbefore, hafter, if_neg Bool.false_ne_true, if_neg Bool.false_ne_true]
          · rfl
    exact hlist table.entries hother
  next := Int.le_refl _

/-- Rows that are not `mine` are removed. -/
theorem SameOn.remove {condition : Entry Row → Bool}
    (hkept : ∀ entry ∈ table.entries, mine entry = true → condition entry = false) :
    SameOn mine mine table (table.remove condition) where
  entries := by
    rw [entries_remove, List.filter_filter]
    refine List.filter_congr fun entry hmem => ?_
    cases hmine : mine entry with
    | false => rfl
    | true => rw [hkept entry hmem hmine]; rfl
  next := Int.le_refl _

end Table

namespace Store

/-- The rows of the user are the same in both stores, and the second gives away no id again that the
first gave away. -/
structure SameFor (userId : Int) (store next : Store) : Prop where
  users : ∀ user ∈ store.users.entries, user.id = userId → user ∈ next.users.entries
  devices : Table.SameOn (fun device => device.row.userId == userId)
    (fun device => device.row.userId == userId) store.devices next.devices
  podcasts : Table.SameOn (fun podcast => podcast.row.userId == userId)
    (fun podcast => podcast.row.userId == userId) store.podcasts next.podcasts
  episodes : Table.SameOn (fun episode => store.ownsPodcast userId episode.row.podcastId)
    (fun episode => next.ownsPodcast userId episode.row.podcastId) store.episodes next.episodes
  actions : Table.SameOn (fun action => store.ownsPodcast userId action.row.podcastId)
    (fun action => next.ownsPodcast userId action.row.podcastId) store.actions next.actions
  settings : Table.SameOn (fun setting => setting.row.userId == userId)
    (fun setting => setting.row.userId == userId) store.settings next.settings

variable {store next : Store} {userId writerId : Int}

/-- A store is the same as itself for every user. -/
theorem SameFor.refl (userId : Int) (store : Store) : SameFor userId store store :=
  ⟨fun _ hmem _ => hmem, .refl _ _, .refl _ _, .refl _ _, .refl _ _, .refl _ _⟩

/-- What stays the same for a user through two changes of a store stays the same. -/
theorem SameFor.trans {middle : Store} (hfirst : SameFor userId store middle)
    (hrest : SameFor userId middle next) : SameFor userId store next where
  users user hmem hid := hrest.users user (hfirst.users user hmem hid) hid
  devices := hfirst.devices.trans hrest.devices
  podcasts := hfirst.podcasts.trans hrest.podcasts
  episodes := hfirst.episodes.trans hrest.episodes
  actions := hfirst.actions.trans hrest.actions
  settings := hfirst.settings.trans hrest.settings

/-- A podcast of another user is not one of the user. -/
theorem HasPodcast.other {podcastId : Int} (hpodcast : store.HasPodcast writerId podcastId)
    (hother : writerId ≠ userId) : store.ownsPodcast userId podcastId = false := by
  refine Bool.eq_false_iff.mpr fun howns => ?_
  exact hother (hpodcast.owner_unique (owns_podcast_iff.mp howns))

/-- The end of a device of another user. -/
theorem SameFor.end_device (hconsistent : store.Consistent) (hother : writerId ≠ userId)
    {deviceId : Int} (hdevice : store.HasDevice writerId deviceId) :
    SameFor userId store (store.withoutDevice deviceId) := by
  have hrefl := SameFor.refl userId store
  rw [without_device_eq]
  refine { hrefl with devices := ?_, actions := ?_, settings := ?_ }
  · refine .remove fun entry hmem hmine => beq_eq_false_iff_ne.mpr fun hid => ?_
    have howner := hdevice.owner_unique ⟨entry, hmem, hid, rfl⟩
    exact hother (howner.trans (beq_iff_eq.mp hmine))
  · dsimp only
    refine .modify fun action hmem hfrom => ?_
    obtain ⟨ownerId, _, hplaces⟩ := hconsistent.actions_placed action hmem
    have howner := hdevice.owner_unique (hplaces.device _ (beq_iff_eq.mp hfrom))
    have hpodcast : store.HasPodcast writerId action.row.podcastId := howner ▸ hplaces.podcast
    exact ⟨hpodcast.other hother, hpodcast.other hother⟩
  · refine .remove fun setting hmem hmine => beq_eq_false_iff_ne.mpr fun hof => ?_
    obtain ⟨_, howns⟩ := hconsistent.settings_owned setting hmem
    have howner := hdevice.owner_unique (howns.device _ hof)
    exact hother (howner.trans (beq_iff_eq.mp hmine))

/-- A new podcast of another user. -/
theorem SameFor.insert_podcast (hconsistent : store.Consistent) (hother : writerId ≠ userId)
    (url : String) :
    SameFor userId store
      { store with podcasts := store.podcasts.insert (.fresh writerId url) } := by
  have hrefl := SameFor.refl userId store
  refine { hrefl with podcasts := ?_, episodes := ?_, actions := ?_ }
  · exact .insert _ (beq_eq_false_iff_ne.mpr hother)
  · refine (Table.SameOn.refl _ _).congr_mine fun episode hmem => ?_
    exact owns_podcast_insert (hconsistent.episodes_placed episode hmem)
  · refine (Table.SameOn.refl _ _).congr_mine fun action hmem => ?_
    obtain ⟨_, _, hplaces⟩ := hconsistent.actions_placed action hmem
    exact owns_podcast_insert hplaces.podcast.has

/-- Podcasts of another user are turned. -/
theorem SameFor.turn (hother : writerId ≠ userId) (selected : String → Bool) (subscribed : Bool)
    (time : Instant) :
    SameFor userId store
      { store with
        podcasts := store.podcasts.modify (isTurned writerId selected subscribed)
          (·.turn subscribed time) } := by
  have hrefl := SameFor.refl userId store
  refine { hrefl with podcasts := ?_, episodes := ?_, actions := ?_ }
  · dsimp only
    refine .modify fun podcast _ hturned => ?_
    have hwriter := (Bool.and_eq_true_iff.mp (Bool.and_eq_true_iff.mp hturned).1).1
    rw [Podcast.userId_turn, beq_iff_eq.mp hwriter]
    exact ⟨beq_eq_false_iff_ne.mpr hother, beq_eq_false_iff_ne.mpr hother⟩
  · exact (Table.SameOn.refl _ _).congr_mine fun _ _ =>
      owns_podcast_modify (fun row => row.userId_turn subscribed time) _ _
  · exact (Table.SameOn.refl _ _).congr_mine fun _ _ =>
      owns_podcast_modify (fun row => row.userId_turn subscribed time) _ _

/-- A write of another user leaves the rows of the user as they are. -/
theorem SameFor.write {time? : Option Instant} (hconsistent : store.Consistent)
    (hother : writerId ≠ userId) (hwrite : store.Write writerId time? next) :
    SameFor userId store next := by
  have hrefl := SameFor.refl userId store
  have howner : (writerId == userId) = false := beq_eq_false_iff_ne.mpr hother
  -- Every row that is written belongs to the writer before and after, so none of the user's is.
  cases hwrite with
  | insertDevice =>
      refine { hrefl with devices := ?_ }
      exact .insert _ howner
  | @describeDevice device hdevice hwriter caption kind =>
      refine { hrefl with devices := ?_ }
      dsimp only
      refine .modify fun entry hmem hid => ?_
      rw [store.devices.eq_of_id_eq hmem hdevice (beq_iff_eq.mp hid), hwriter]
      exact ⟨howner, howner⟩
  | endDevice hdevice hwriter => exact .end_device hconsistent hother ⟨_, hdevice, rfl, hwriter⟩
  | @insertPodcast url => exact .insert_podcast hconsistent hother url
  | turn _ selected subscribed => exact .turn hother selected subscribed _
  | insertEpisode hpodcast =>
      refine { hrefl with episodes := ?_ }
      exact .insert _ (hpodcast.other hother)
  | identifyEpisode hepisode hpodcast guid =>
      refine { hrefl with episodes := ?_ }
      dsimp only
      refine .modify fun entry hmem hid => ?_
      rw [store.episodes.eq_of_id_eq hmem hepisode (beq_iff_eq.mp hid)]
      exact ⟨hpodcast.other hother, hpodcast.other hother⟩
  | insertAction hplaces =>
      refine { hrefl with actions := ?_ }
      exact .insert _ (hplaces.podcast.other hother)
  | insertSetting =>
      refine { hrefl with settings := ?_ }
      exact .insert _ howner
  | changeSetting target key value =>
      refine { hrefl with settings := ?_ }
      dsimp only
      refine .modify fun setting _ hsetting => ?_
      simp only [isSetting, Bool.and_eq_true, beq_iff_eq] at hsetting
      rw [hsetting.1.1]
      exact ⟨howner, howner⟩
  | removeSetting target key =>
      refine { hrefl with settings := ?_ }
      refine .remove fun setting _ hmine => Bool.eq_false_iff.mpr fun hsetting => ?_
      simp only [isSetting, Bool.and_eq_true, beq_iff_eq] at hsetting
      exact hother (hsetting.1.1.symm.trans (beq_iff_eq.mp hmine))

/-- Any number of writes of another user leaves the rows of the user as they are. -/
theorem SameFor.writes {time? : Option Instant} (hconsistent : store.Consistent)
    (hwriter : store.users.Has writerId) (hother : writerId ≠ userId)
    (hwrites : Writes writerId time? store next) : SameFor userId store next := by
  induction hwrites with
  | refl => exact .refl userId store
  | tail hearlier hwrite ih =>
      have hmiddle := hconsistent.writes hwriter hearlier
      exact ih.trans (.write hmiddle hother hwrite)

/-- The end of the account of another user leaves the podcasts of the user. -/
theorem owns_podcast_without_user (hother : writerId ≠ userId) (podcastId : Int) :
    (store.withoutUser writerId).ownsPodcast userId podcastId =
      store.ownsPodcast userId podcastId := by
  rw [Bool.eq_iff_iff, owns_podcast_iff, owns_podcast_iff]
  constructor
  · rintro ⟨podcast, hmem, h⟩
    exact ⟨podcast, (Table.mem_remove.mp hmem).1, h⟩
  · intro hpodcast
    exact hpodcast.kept hother.symm

/-- The end of the account of another user leaves the rows of the user as they are. -/
theorem SameFor.without_user (hother : writerId ≠ userId) :
    SameFor userId store (store.withoutUser writerId) where
  users := by
    rintro user hmem rfl
    exact Table.mem_remove.mpr ⟨hmem, beq_eq_false_iff_ne.mpr hother.symm⟩
  devices := .remove fun device _ hmine => by
    rw [beq_iff_eq.mp hmine]
    exact beq_eq_false_iff_ne.mpr hother.symm
  podcasts := .remove fun podcast _ hmine => by
    rw [beq_iff_eq.mp hmine]
    exact beq_eq_false_iff_ne.mpr hother.symm
  episodes :=
    (Table.SameOn.remove fun _ _ hmine =>
      (owns_podcast_iff.mp hmine).other hother.symm).congr_mine fun _ _ =>
        owns_podcast_without_user hother _
  actions :=
    (Table.SameOn.remove fun _ _ hmine =>
      (owns_podcast_iff.mp hmine).other hother.symm).congr_mine fun _ _ =>
        owns_podcast_without_user hother _
  settings := .remove fun setting _ hmine => by
    rw [beq_iff_eq.mp hmine]
    exact beq_eq_false_iff_ne.mpr hother.symm

/-- What a request of another user does leaves the rows of the user as they are. -/
theorem SameFor.effect (hconsistent : store.Consistent) {user : Entry User}
    (hmem : user ∈ store.users.entries) {name : String} (hother : name ≠ user.row.name)
    {request : Request} (heffect : store.Effect name request next) :
    SameFor user.id store next := by
  have hwriter : ∀ {writer : Entry User}, store.findUser? name = some writer →
      writer ∈ store.users.entries ∧ writer.id ≠ user.id := by
    intro writer hfind
    obtain ⟨hfound, hname⟩ := mem_of_find_user hfind
    refine ⟨hfound, fun hid => hother ?_⟩
    rw [← hname, store.users.eq_of_id_eq hfound hmem hid]
  cases heffect with
  | create =>
      refine { SameFor.refl user.id store with users := ?_ }
      exact fun _ hold _ => Table.mem_insert.mpr (.inl hold)
  | destroy hfind =>
      rw [destroy_account_eq hconsistent]
      exact .without_user (hwriter hfind).2
  | nothing => exact .refl user.id store
  | writes hfind hwrites =>
      obtain ⟨hfound, hid⟩ := hwriter hfind
      exact .writes hconsistent (Table.has_of_mem hfound) hid hwrites

/-! ## Mirrors of what stays the same -/

variable {translation : Translation} {user : Entry User} {source copy : Store}

/-- A mirror of a store is one still after a step that leaves the rows of the user as they are. The
translation of ids is moved along with the ids that the source gives away next. -/
theorem Mirrors.of_same_for (hmirrors : Mirrors translation user source copy)
    (hsame : SameFor translation.userId source next) (hconsistent : next.Consistent) :
    ∃ moved : Translation, Mirrors moved user next copy := by
  let moved : Translation :=
    { userId := translation.userId
      devices := Table.shift translation.devices (hmirrors.devices.start_le hsame.devices)
      podcasts := Table.shift translation.podcasts (hmirrors.podcasts.start_le hsame.podcasts)
      episodes := Table.shift translation.episodes (hmirrors.episodes.start_le hsame.episodes)
      actions := Table.shift translation.actions (hmirrors.actions.start_le hsame.actions)
      settings := Table.shift translation.settings (hmirrors.settings.start_le hsame.settings) }
  have hdevice : ∀ {id}, copy.devices.Has id → moved.devices id = translation.devices id :=
    fun hhas => Table.shift_of_lt (hmirrors.devices.start_le hsame.devices)
      (Table.lt_next_of_has hhas)
  have hpodcast : ∀ {id}, copy.podcasts.Has id → moved.podcasts id = translation.podcasts id :=
    fun hhas => Table.shift_of_lt (hmirrors.podcasts.start_le hsame.podcasts)
      (Table.lt_next_of_has hhas)
  have hepisode : ∀ {id}, copy.episodes.Has id → moved.episodes id = translation.episodes id :=
    fun hhas => Table.shift_of_lt (hmirrors.episodes.start_le hsame.episodes)
      (Table.lt_next_of_has hhas)
  -- The rows of the copy refer to rows of the copy only, whose ids are translated as before.
  have hepisodes : ∀ episode ∈ copy.episodes.entries,
      moved.episodeRow episode.row = translation.episodeRow episode.row := by
    intro episode hmem
    unfold Translation.episodeRow
    rw [hpodcast (hmirrors.copy_consistent.episodes_placed episode hmem)]
  have hactions : ∀ action ∈ copy.actions.entries,
      moved.actionRow action.row = translation.actionRow action.row := by
    intro action hmem
    obtain ⟨_, _, hplaces⟩ := hmirrors.copy_consistent.actions_placed action hmem
    have hdevices : action.row.deviceId.map moved.devices =
        action.row.deviceId.map translation.devices :=
      Option.map_congr fun id hid => hdevice (hplaces.device id hid).has
    unfold Translation.actionRow
    rw [hdevices, hpodcast hplaces.podcast.has, hepisode hplaces.episode.has]
  have hsettings : ∀ setting ∈ copy.settings.entries,
      moved.settingRow setting.row = translation.settingRow setting.row := by
    intro setting hmem
    obtain ⟨_, howns⟩ := hmirrors.copy_consistent.settings_owned setting hmem
    have htarget : moved.target setting.row.target = translation.target setting.row.target := by
      cases htarget : setting.row.target with
      | account => rfl
      | device id =>
          rw [htarget] at howns
          exact congrArg Target.device (hdevice howns.has)
      | podcast id =>
          rw [htarget] at howns
          exact congrArg Target.podcast (hpodcast howns.has)
      | episode podcastId episodeId =>
          rw [htarget] at howns
          exact (Target.episode.injEq ..).mpr ⟨hpodcast howns.1.has, hepisode howns.2.has⟩
    unfold Translation.settingRow
    rw [htarget]
  exact ⟨moved,
    { source_consistent := hconsistent
      copy_consistent := hmirrors.copy_consistent
      source_user := hsame.users _ hmirrors.source_user rfl
      copy_users := hmirrors.copy_users
      devices := hmirrors.devices.of_same hsame.devices fun _ _ => rfl
      podcasts := hmirrors.podcasts.of_same hsame.podcasts fun _ _ => rfl
      episodes := hmirrors.episodes.of_same hsame.episodes hepisodes
      actions := hmirrors.actions.of_same hsame.actions hactions
      settings := hmirrors.settings.of_same hsame.settings hsettings }⟩

end Store

end PodcastLedger
