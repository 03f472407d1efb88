import PodcastLedger.Store.Basic

/-!
# Deletion

Deleting rows takes along the rows that refer to them: what belongs to a user goes with the user,
episodes with their podcast, actions with their episode, and settings with what they belong to. Only
an action outlives its device, and then has none.
-/

namespace PodcastLedger.Store

/-- Some row that satisfies the condition has the id. -/
def deletes {Row : Type} (table : Table Row) (condition : Entry Row → Bool) (id : Int) : Bool :=
  table.entries.any fun entry => condition entry && entry.id == id

/-- Deletes settings. -/
def deleteSettings (store : Store) (condition : Entry Setting → Bool) : Store :=
  { store with settings := store.settings.remove condition }

/-- Deletes episode actions. -/
def deleteActions (store : Store) (condition : Entry EpisodeAction → Bool) : Store :=
  { store with actions := store.actions.remove condition }

/-- Deletes episodes with their actions and settings. -/
def deleteEpisodes (store : Store) (condition : Entry Episode → Bool) : Store :=
  let gone := deletes store.episodes condition
  { store with
    episodes := store.episodes.remove condition
    actions := store.actions.remove fun action => gone action.row.episodeId
    settings := store.settings.remove fun setting => setting.row.target.episode?.any gone }

/-- Deletes podcasts with their episodes, actions and settings. -/
def deletePodcasts (store : Store) (condition : Entry Podcast → Bool) : Store :=
  let gone := deletes store.podcasts condition
  let rest := store.deleteEpisodes fun episode => gone episode.row.podcastId
  -- What refers to the podcast itself goes as well, whatever its episode.
  { rest with
    podcasts := rest.podcasts.remove condition
    actions := rest.actions.remove fun action => gone action.row.podcastId
    settings := rest.settings.remove fun setting => setting.row.target.podcast?.any gone }

/-- Deletes devices with their settings, and detaches their actions. -/
def deleteDevices (store : Store) (condition : Entry Device → Bool) : Store :=
  let gone := deletes store.devices condition
  { store with
    devices := store.devices.remove condition
    actions := store.actions.modify (fun action => action.row.deviceId.any gone)
      fun action => { action with deviceId := none }
    settings := store.settings.remove fun setting => setting.row.target.device?.any gone }

/-- Deletes users with all that is theirs. -/
def deleteUsers (store : Store) (condition : Entry User → Bool) : Store :=
  let gone := deletes store.users condition
  let rest :=
    (store.deleteDevices fun device => gone device.row.userId).deletePodcasts fun podcast =>
      gone podcast.row.userId
  { rest with
    users := rest.users.remove condition
    settings := rest.settings.remove fun setting => gone setting.row.userId }

end PodcastLedger.Store
