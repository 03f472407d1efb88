import PodcastLedger.Device.Kind
import PodcastLedger.Episode.Action
import PodcastLedger.Setting.Target
import PodcastLedger.Time.Instant

/-!
# Rows

What the tables of the store hold. Rows refer to rows of other tables by their ids. A podcast is
subscribed to or not, and remembers when that changed last: `Podcast.turn` is the one way to change
it, and leaves a podcast alone that is as wanted already (`Podcast.turn_of_eq`).
-/

namespace PodcastLedger

/-- A user account. Of the password only the work factor of its hash is kept here. -/
structure User where
  name : String
  locked : Bool
  workFactor : Nat
  deriving DecidableEq, Repr

/-- A device of a user. -/
structure Device where
  userId : Int
  name : String
  caption : String
  kind : DeviceKind
  deriving DecidableEq, Repr

/-- A podcast of a user, with what is known about it, and whether the user is subscribed to it since
when, or since when not. -/
structure Podcast where
  userId : Int
  url : String
  title : Option String
  description : Option String
  website : Option String
  subscribed : Bool
  updatedAt : Instant
  deriving DecidableEq

/-- An episode of a podcast. -/
structure Episode where
  podcastId : Int
  url : String
  guid : Option String
  deriving DecidableEq, Repr

/-- Something that a listener did with an episode, if known on which device. -/
structure EpisodeAction where
  kind : ActionKind
  deviceId : Option Int
  podcastId : Int
  episodeId : Int
  occurredAt : Instant
  started : Option Int
  position : Option Int
  total : Option Int
  deriving DecidableEq

/-- A setting of a user. -/
structure Setting where
  userId : Int
  target : Target
  key : String
  value : String
  deriving DecidableEq, Repr

namespace Podcast

/-- A podcast that was never subscribed to. -/
def fresh (userId : Int) (url : String) : Podcast :=
  ⟨userId, url, none, none, none, false, .epoch⟩

/-- Subscribes to a podcast or ends the subscription as of a time. -/
def turn (podcast : Podcast) (subscribed : Bool) (time : Instant) : Podcast :=
  if podcast.subscribed = subscribed then podcast
  else { podcast with subscribed, updatedAt := time }

/-- The podcast after each of a list of turns, with whether the turn made a difference. -/
def turns (podcast : Podcast) : List (Bool × Instant) → List (Bool × Podcast)
  | [] => []
  | (subscribed, time) :: rest =>
    let turned := podcast.turn subscribed time
    (podcast.subscribed != subscribed, turned) :: turned.turns rest

/-- A podcast that is as wanted stays as it is. -/
theorem turn_of_eq {podcast : Podcast} {subscribed : Bool} (hsame : podcast.subscribed = subscribed)
    (time : Instant) : podcast.turn subscribed time = podcast :=
  if_pos hsame

/-- After a turn the podcast is as wanted. -/
@[simp] theorem subscribed_turn (podcast : Podcast) (subscribed : Bool) (time : Instant) :
    (podcast.turn subscribed time).subscribed = subscribed := by
  unfold turn
  split
  · assumption
  · rfl

end Podcast

namespace Episode

/-- The episode with an identifier if it has none yet. -/
def identify (episode : Episode) (guid : Option String) : Episode :=
  { episode with guid := episode.guid.or guid }

/-- An identifier is never replaced. -/
theorem guid_identify_of_some {episode : Episode} {kept : String} (hguid : episode.guid = some kept)
    (guid : Option String) : (episode.identify guid).guid = some kept := by
  simp [identify, hguid]

end Episode

end PodcastLedger
