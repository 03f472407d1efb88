import PodcastLedger.Proofs.Ledger.Gains
import PodcastLedger.Proofs.Uploads.Uploaded

/-!
# Placed actions

What placing a batch of actions does before any of them is logged. `Store.Placed` accounts for all
tables: the devices, podcasts and episodes that the batch mentions and that were missing are there
once each, an episode without an identifier has the first one that is given for it, and every row
for the log stands for its action (`Store.Stands`). One action is placed by
`Store.Consistent.placed_action`, and `Store.Placed.trans` puts batches together.
-/

namespace PodcastLedger

/-- What a device is known by. -/
def Device.key (device : Device) : Int × String :=
  (device.userId, device.name)

/-- A device that was only named yet. -/
def Device.fresh (key : Int × String) : Device :=
  ⟨key.1, key.2, "", .other⟩

/-- What a podcast is known by. -/
def Podcast.key (podcast : Podcast) : Int × String :=
  (podcast.userId, podcast.url)

/-- What an episode is known by. -/
def Episode.key (episode : Episode) : Int × String :=
  (episode.podcastId, episode.url)

/-- An episode without an identifier. -/
def Episode.fresh (key : Int × String) : Episode :=
  ⟨key.1, key.2, none⟩

/-- An action that mentions an episode, by the key of the episode and the identifier given. -/
abbrev EpisodeMention := (Int × String) × Option String

/-- What an action mentions, given the row that stands for it. -/
def ValidAction.mentions (action : ValidAction) (row : EpisodeAction) : EpisodeMention :=
  ((row.podcastId, action.episode), action.guid)

/-- The first identifier that is given for an episode. -/
def givenGuid (mentions : List EpisodeMention) (key : Int × String) : Option String :=
  mentions.findSome? fun mention => if mention.1 = key then mention.2 else none

/-- The episode with the first identifier that is given for it, if it has none yet. -/
def identified (mentions : List EpisodeMention) (entry : Entry Episode) : Entry Episode :=
  ⟨entry.id, entry.row.identify (givenGuid mentions entry.row.key)⟩

/-- What mentions make of the episodes: the missing ones are added, and all take identifiers. -/
def Identifies (mentions : List EpisodeMention) (before after : List (Entry Episode)) : Prop :=
  ∃ all, Table.Gains Episode.key Episode.fresh (fun key => ∃ mention ∈ mentions, mention.1 = key)
      before all ∧
    after = all.map (identified mentions)

variable {mentions first second : List EpisodeMention} {before middle after : List (Entry Episode)}

/-! ## Identifiers -/

/-- To be identified twice is to take the first identifier that is given. -/
theorem Episode.identify_identify (episode : Episode) (guid other : Option String) :
    (episode.identify guid).identify other = episode.identify (guid.or other) := by
  simp [Episode.identify, Option.or_assoc]

/-- An identifier that is not given makes no difference. -/
theorem Episode.identify_none (episode : Episode) : episode.identify none = episode := by
  simp [Episode.identify]

/-- An episode that has an identifier stays as it is. -/
theorem Episode.identify_of_some {episode : Episode} {kept : String}
    (hguid : episode.guid = some kept) (guid : Option String) : episode.identify guid = episode := by
  obtain ⟨_, _, _⟩ := episode
  cases hguid
  rfl

/-- Identifiers make no difference to what an episode is known by. -/
@[simp] theorem key_identified (entry : Entry Episode) :
    (identified mentions entry).row.key = entry.row.key :=
  rfl

/-- A single mention identifies the episode that it is about. -/
theorem identified_of_key {key : Int × String} {guid : Option String} {entry : Entry Episode}
    (hkey : entry.row.key = key) :
    identified [(key, guid)] entry = ⟨entry.id, entry.row.identify guid⟩ := by
  simp [identified, givenGuid, hkey]

/-- An identifier is given for what is mentioned only. -/
theorem given_guid_eq_none {key : Int × String} (hnone : ¬ ∃ mention ∈ mentions, mention.1 = key) :
    givenGuid mentions key = none := by
  refine List.findSome?_eq_none_iff.mpr fun mention hmem => if_neg fun hkey => ?_
  exact hnone ⟨mention, hmem, hkey⟩

/-- A single mention leaves the episodes that it is not about. -/
theorem identified_of_other {key : Int × String} {guid : Option String} {entry : Entry Episode}
    (hkey : entry.row.key ≠ key) : identified [(key, guid)] entry = entry := by
  have hnone : givenGuid [(key, guid)] entry.row.key = none :=
    given_guid_eq_none (by simpa using Ne.symm hkey)
  unfold identified
  rw [hnone, Episode.identify_none]

/-- The identifier that is given first counts. -/
theorem given_guid_append (key : Int × String) :
    givenGuid (first ++ second) key = (givenGuid first key).or (givenGuid second key) :=
  List.findSome?_append

/-- To take identifiers twice is to take them at once. -/
theorem identified_identified (entry : Entry Episode) :
    identified second (identified first entry) = identified (first ++ second) entry := by
  unfold identified
  rw [given_guid_append, ← Episode.identify_identify]
  rfl

/-- Without mentions the episodes stay. -/
theorem Identifies.refl (entries : List (Entry Episode)) : Identifies [] entries entries := by
  refine ⟨entries, (Table.Gains.refl entries).congr (by simp), ?_⟩
  conv => lhs; rw [← List.map_id entries]
  exact List.map_congr_left fun entry _ =>
    congrArg (Entry.mk entry.id) entry.row.identify_none.symm

/-- An episode that was there is there, under its id. -/
theorem Identifies.mem (hidentifies : Identifies mentions before after) {entry : Entry Episode}
    (hmem : entry ∈ before) : ∃ later ∈ after, later.id = entry.id ∧ later.row.key = entry.row.key := by
  obtain ⟨all, hgains, rfl⟩ := hidentifies
  exact ⟨_, List.mem_map.mpr ⟨entry, hgains.mem hmem, rfl⟩, rfl, rfl⟩

/-- What mentions make of the episodes in two steps they make of them at once. -/
theorem Identifies.trans (hfirst : Identifies first before middle)
    (hsecond : Identifies second middle after) : Identifies (first ++ second) before after := by
  obtain ⟨known, hknown, rfl⟩ := hfirst
  obtain ⟨all, hall, rfl⟩ := hsecond
  obtain ⟨created, rfl, _⟩ := id hall
  refine ⟨known ++ created, ?_, ?_⟩
  · refine (hknown.trans (hall.of_same_keys fun key => Table.has_key_map key_identified)).congr ?_
    intro key
    simp only [List.mem_append, or_and_right, exists_or]
  · rw [List.map_append, List.map_map, List.map_append]
    refine congrArg₂ (· ++ ·) (List.map_congr_left fun entry _ => identified_identified entry) ?_
    refine List.map_congr_left fun entry hmem => ?_
    -- An episode that is new to the second step was not mentioned in the first one.
    have hnew : givenGuid first entry.row.key = none := by
      refine given_guid_eq_none fun hmentioned => ?_
      obtain ⟨_, hsplit, _, _, hcreated⟩ := hall
      obtain rfl := List.append_cancel_left hsplit
      refine ((hcreated entry.row.key).mp ⟨entry, hmem, rfl⟩).2 ?_
      exact (Table.has_key_map key_identified).mpr (hknown.has_key_iff.mpr (.inr hmentioned))
    unfold identified
    rw [given_guid_append, hnew, Option.none_or]

namespace Store

variable {store middle next : Store} {userId podcastId : Int} {name url : String}
  {guid device : Option String}

/-! ## Single steps -/

/-- A device is found by its user and name exactly if some row has the key. -/
theorem has_device_key_iff :
    Table.HasKey Device.key store.devices.entries (userId, name) ↔
      (store.findDevice? userId name).isSome = true :=
  Table.has_key_of_find fun row => by simp [Device.key]

/-- A podcast is found by its user and address exactly if some row has the key. -/
theorem has_podcast_key_iff :
    Table.HasKey Podcast.key store.podcasts.entries (userId, url) ↔
      (store.findPodcast? userId url).isSome = true :=
  Table.has_key_of_find fun row => by simp [Podcast.key]

/-- An episode is found by its podcast and address exactly if some row has the key. -/
theorem has_episode_key_iff :
    Table.HasKey Episode.key store.episodes.entries (podcastId, url) ↔
      (store.findEpisode? podcastId url).isSome = true :=
  Table.has_key_of_find fun row => by simp [Episode.key]

/-- To register a device is to gain it, and leaves the other tables. -/
theorem register_device_gains {registration : Registration}
    (hregister : store.registerDevice userId name = .ok (next, registration)) :
    next = { store with devices := next.devices } ∧
      Table.Gains Device.key Device.fresh (· = (userId, name)) store.devices.entries
        next.devices.entries ∧
      registration.device ∈ next.devices.entries ∧
      registration.device.row.key = (userId, name) := by
  simp only [registerDevice, insertDevice, bind_eq_ok_iff, require_eq_ok_iff] at hregister
  obtain ⟨_, _, _, _, hinsert⟩ := hregister
  cases hfind : store.findDevice? userId name with
  | some found =>
      rw [hfind] at hinsert
      cases hinsert
      obtain ⟨hmem, howner, hname⟩ := mem_of_find_device hfind
      refine ⟨rfl, Table.gains_of_has_key ?_, hmem, Prod.ext howner hname⟩
      rw [has_device_key_iff, hfind]
      rfl
  | none =>
      rw [hfind] at hinsert
      cases hinsert
      refine ⟨rfl, Table.gains_append_fresh ?_ rfl _, Table.mem_insert.mpr (.inr rfl), rfl⟩
      rw [has_device_key_iff, hfind]
      exact Bool.false_ne_true

/-- To find or add a podcast is to gain it, and leaves the other tables. -/
theorem insert_podcast_gains {podcast : Entry Podcast}
    (hinsert : store.insertPodcast userId url = .ok (next, podcast)) :
    next = { store with podcasts := next.podcasts } ∧
      Table.Gains Podcast.key (fun key => .fresh key.1 key.2) (· = (userId, url))
        store.podcasts.entries next.podcasts.entries ∧
      podcast ∈ next.podcasts.entries ∧ podcast.row.key = (userId, url) := by
  simp only [insertPodcast, bind_eq_ok_iff, require_eq_ok_iff] at hinsert
  obtain ⟨_, _, hinsert⟩ := hinsert
  cases hfind : store.findPodcast? userId url with
  | some found =>
      rw [hfind] at hinsert
      cases hinsert
      obtain ⟨hmem, howner, hurl⟩ := mem_of_find_podcast hfind
      refine ⟨rfl, Table.gains_of_has_key ?_, hmem, Prod.ext howner hurl⟩
      rw [has_podcast_key_iff, hfind]
      rfl
  | none =>
      rw [hfind] at hinsert
      cases hinsert
      refine ⟨rfl, Table.gains_append_fresh ?_ rfl _, Table.mem_insert.mpr (.inr rfl), rfl⟩
      rw [has_podcast_key_iff, hfind]
      exact Bool.false_ne_true

/-- To find or add an episode is to mention it, and leaves the other tables. -/
theorem Consistent.insert_episode_identifies (hconsistent : store.Consistent)
    {episode : Entry Episode}
    (hinsert : store.insertEpisode podcastId url guid = .ok (next, episode)) :
    next = { store with episodes := next.episodes } ∧
      Identifies [((podcastId, url), guid)] store.episodes.entries next.episodes.entries ∧
      episode ∈ next.episodes.entries ∧ episode.row.key = (podcastId, url) := by
  have hwanted : ∀ key, key = (podcastId, url) ↔
      ∃ mention ∈ [((podcastId, url), guid)], mention.1 = key := by
    simp [eq_comm]
  simp only [insertEpisode, bind_eq_ok_iff, require_eq_ok_iff] at hinsert
  obtain ⟨_, _, hinsert⟩ := hinsert
  cases hfind : store.findEpisode? podcastId url with
  | some found =>
      rw [hfind] at hinsert
      cases hinsert
      obtain ⟨hmem, hpodcast, hurl⟩ := mem_of_find_episode hfind
      have hfound : found.row.key = (podcastId, url) := Prod.ext hpodcast hurl
      refine ⟨rfl, ⟨_, (Table.gains_of_has_key ⟨found, hmem, hfound⟩).congr hwanted, ?_⟩,
        Table.mem_modify.mpr ⟨found, hmem, if_pos (beq_self_eq_true _)⟩, hfound⟩
      refine List.map_congr_left fun entry hentry => ?_
      by_cases hkey : entry.row.key = (podcastId, url)
      · rw [hconsistent.episodes_unique.eq hentry hmem (hkey.trans hfound.symm),
          if_pos (beq_self_eq_true _), identified_of_key hfound]
      · rw [identified_of_other hkey, if_neg]
        intro hid
        rw [store.episodes.eq_of_id_eq hentry hmem (beq_iff_eq.mp hid)] at hkey
        exact hkey hfound
  | none =>
      rw [hfind] at hinsert
      cases hinsert
      have hnew : ¬ Table.HasKey Episode.key store.episodes.entries (podcastId, url) := by
        rw [has_episode_key_iff, hfind]
        exact Bool.false_ne_true
      refine ⟨rfl, ⟨_, (Table.gains_append_fresh hnew rfl store.episodes.next).congr hwanted, ?_⟩,
        Table.mem_insert.mpr (.inr rfl), rfl⟩
      have hfresh : identified [((podcastId, url), guid)]
          ⟨store.episodes.next, Episode.fresh (podcastId, url)⟩ =
            ⟨store.episodes.next, ⟨podcastId, url, guid⟩⟩ :=
        identified_of_key rfl
      rw [Table.entries_insert, List.map_append, List.map_singleton, hfresh]
      refine congrArg (· ++ _) ?_
      conv => lhs; rw [← List.map_id store.episodes.entries]
      exact List.map_congr_left fun entry hentry =>
        (identified_of_other fun hkey => hnew ⟨entry, hentry, hkey⟩).symm

/-- A name is one of a device of the user, under the id. -/
def NamesDevice (store : Store) (userId : Int) (name : String) (deviceId : Int) : Prop :=
  ∃ device ∈ store.devices.entries, device.id = deviceId ∧ device.row.key = (userId, name)

/-- To place a device is to gain it if one is named, and leaves the other tables. -/
theorem place_device_gains {deviceId : Option Int}
    (hplace : store.placeDevice userId device = .ok (next, deviceId)) :
    next = { store with devices := next.devices } ∧
      Table.Gains Device.key Device.fresh (fun key => ∃ name ∈ device, key = (userId, name))
        store.devices.entries next.devices.entries ∧
      Option.Rel (next.NamesDevice userId) device deviceId := by
  cases device with
  | none =>
      cases hplace
      exact ⟨rfl, (Table.Gains.refl _).congr (by simp), .none⟩
  | some name =>
      simp only [placeDevice, bind_eq_ok_iff] at hplace
      obtain ⟨⟨middle, registration⟩, hregister, hplace⟩ := hplace
      cases hplace
      obtain ⟨hothers, hgains, hmem, hkey⟩ := register_device_gains hregister
      exact ⟨hothers, hgains.congr (by simp), .some ⟨registration.device, hmem, rfl, hkey⟩⟩

/-- A device that is named for an action is so as long as the device stays. -/
theorem names_device_mono {deviceId : Option Int}
    (hnames : Option.Rel (store.NamesDevice userId) device deviceId)
    (hstay : ∀ entry ∈ store.devices.entries, entry ∈ next.devices.entries) :
    Option.Rel (next.NamesDevice userId) device deviceId := by
  cases hnames with
  | none => exact .none
  | some hname =>
      obtain ⟨entry, hmem, hentry⟩ := hname
      exact .some ⟨entry, hstay entry hmem, hentry⟩

/-! ## Batches -/

/-- A row for the log stands for an action of a user: it has what the action says and refers to the
device, the podcast and the episode that the action names. -/
structure Stands (store : Store) (userId : Int) (action : ValidAction) (row : EpisodeAction) :
    Prop where
  kind : row.kind = action.kind
  occurredAt : row.occurredAt = action.timestamp
  measures : row.measures = [action.started, action.position, action.total]
  device : Option.Rel (store.NamesDevice userId) action.device row.deviceId
  podcast : ∃ podcast ∈ store.podcasts.entries,
    podcast.id = row.podcastId ∧ podcast.row.key = (userId, action.podcast)
  episode : ∃ episode ∈ store.episodes.entries,
    episode.id = row.episodeId ∧ episode.row.key = (row.podcastId, action.episode)

/-- What placing a batch leaves: rows that stand for the actions, and tables that gained what was
missing. -/
structure Placed (store next : Store) (userId : Int) (actions : List ValidAction)
    (rows : List EpisodeAction) : Prop where
  stands : List.Forall₂ (next.Stands userId) actions rows
  devices : Table.Gains Device.key Device.fresh
    (fun key => ∃ action ∈ actions, ∃ name ∈ action.device, key = (userId, name))
    store.devices.entries next.devices.entries
  podcasts : Table.Gains Podcast.key (fun key => .fresh key.1 key.2)
    (fun key => ∃ action ∈ actions, key = (userId, action.podcast))
    store.podcasts.entries next.podcasts.entries
  episodes : Identifies (List.zipWith ValidAction.mentions actions rows) store.episodes.entries
    next.episodes.entries
  others : next =
    { store with devices := next.devices, podcasts := next.podcasts, episodes := next.episodes }

/-- An empty batch leaves the store as it is. -/
theorem Placed.refl (store : Store) (userId : Int) : store.Placed store userId [] [] where
  stands := .nil
  devices := (Table.Gains.refl _).congr (by simp)
  podcasts := (Table.Gains.refl _).congr (by simp)
  episodes := .refl _
  others := rfl

/-- A row that stands for an action does so after more actions were placed. -/
theorem Stands.mono {action : ValidAction} {row : EpisodeAction}
    (hstands : store.Stands userId action row) {actions : List ValidAction}
    {rows : List EpisodeAction} (hplaced : store.Placed next userId actions rows) :
    next.Stands userId action row := by
  refine { hstands with device := ?_, podcast := ?_, episode := ?_ }
  · exact names_device_mono hstands.device fun _ hmem => hplaced.devices.mem hmem
  · obtain ⟨podcast, hmem, hpodcast⟩ := hstands.podcast
    exact ⟨podcast, hplaced.podcasts.mem hmem, hpodcast⟩
  · obtain ⟨episode, hmem, hid, hkey⟩ := hstands.episode
    obtain ⟨later, hlater, hlaterId, hlaterKey⟩ := hplaced.episodes.mem hmem
    exact ⟨later, hlater, hlaterId.trans hid, hlaterKey.trans hkey⟩

/-- Batches that are placed one after the other are placed as one batch. -/
theorem Placed.trans {first second : List ValidAction} {rows others : List EpisodeAction}
    (hfirst : store.Placed middle userId first rows)
    (hsecond : middle.Placed next userId second others) :
    store.Placed next userId (first ++ second) (rows ++ others) where
  stands := List.rel_append (hfirst.stands.imp fun _ _ hstands => hstands.mono hsecond)
    hsecond.stands
  devices := (hfirst.devices.trans hsecond.devices).congr fun key => by
    simp only [List.mem_append, or_and_right, exists_or]
  podcasts := (hfirst.podcasts.trans hsecond.podcasts).congr fun key => by
    simp only [List.mem_append, or_and_right, exists_or]
  episodes := by
    rw [List.zipWith_append hfirst.stands.length_eq]
    exact hfirst.episodes.trans hsecond.episodes
  others := by
    rw [hsecond.others, hfirst.others]

/-- One action is placed. -/
theorem Consistent.placed_action (hconsistent : store.Consistent) (huser : store.users.Has userId)
    {action : ValidAction} {row : EpisodeAction}
    (hplace : store.placeAction userId action = .ok (next, row)) :
    store.Placed next userId [action] [row] := by
  simp only [placeAction, bind_eq_ok_iff] at hplace
  obtain ⟨⟨first, deviceId⟩, hdevice, ⟨second, podcast⟩, hpodcast, ⟨third, episode⟩, hepisode,
    hrow⟩ := hplace
  cases hrow
  have hgrowth : Growth userId none store second :=
    (place_device_ok hdevice).1.trans (insert_podcast_ok hpodcast).1
  have hconsistent := hconsistent.writes huser hgrowth.writes
  obtain ⟨hfirst, hdevices, hnames⟩ := place_device_gains hdevice
  obtain ⟨hsecond, hpodcasts, hpodcastMem, hpodcastKey⟩ := insert_podcast_gains hpodcast
  obtain ⟨hthird, hepisodes, hepisodeMem, hepisodeKey⟩ :=
    hconsistent.insert_episode_identifies hepisode
  have hdeviceTable : third.devices = first.devices := by rw [hthird, hsecond]
  have hpodcastTable : third.podcasts = second.podcasts := by rw [hthird]
  have hepisodeTable : second.episodes = store.episodes := by rw [hsecond, hfirst]
  refine ⟨.cons ⟨rfl, rfl, rfl, ?_, ?_, episode, hepisodeMem, rfl, hepisodeKey⟩ .nil, ?_, ?_, ?_, ?_⟩
  · exact names_device_mono hnames fun _ hmem => hdeviceTable ▸ hmem
  · rw [hpodcastTable]
    exact ⟨podcast, hpodcastMem, rfl, hpodcastKey⟩
  · rw [hdeviceTable]
    exact hdevices.congr (by simp)
  · rw [hpodcastTable]
    have hunchanged : first.podcasts = store.podcasts := by rw [hfirst]
    rw [← hunchanged]
    exact hpodcasts.congr (by simp)
  · rw [← hepisodeTable]
    exact hepisodes
  · rw [hdeviceTable, hpodcastTable, hthird, hsecond, hfirst]

/-- A batch is placed action by action. Consistency carries over from each action to the next. -/
theorem Consistent.placed_actions (hconsistent : store.Consistent) (huser : store.users.Has userId)
    {actions : List ValidAction} {rows : List EpisodeAction}
    (hplace : store.placeActions userId actions = .ok (next, rows)) :
    store.Placed next userId actions rows := by
  induction actions generalizing store rows with
  | nil =>
      cases hplace
      exact .refl _ userId
  | cons action actions ih =>
      simp only [placeActions, bind_eq_ok_iff] at hplace
      obtain ⟨⟨middle, row⟩, hrow, ⟨last, others⟩, hothers, hplace⟩ := hplace
      cases hplace
      have hwrites : Writes userId none store middle := (place_action_ok hrow).1.writes
      have hmiddleUser : middle.users.Has userId := by rwa [hwrites.users_eq]
      exact (hconsistent.placed_action huser hrow).trans
        (ih (hconsistent.writes huser hwrites) hmiddleUser hothers)

end Store

end PodcastLedger
