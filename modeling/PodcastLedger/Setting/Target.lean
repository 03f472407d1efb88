/-!
# Targets of settings

Settings belong to an account, a device, a podcast or an episode. A `Scope` names the sort of thing
and is written exactly as it is named; a `Target` says which one, by ids.
-/

namespace PodcastLedger

/-- The sort of thing that settings belong to. -/
inductive Scope where
  | account
  | device
  | episode
  | podcast
  deriving DecidableEq, Repr

namespace Scope

/-- The name of a scope. -/
def name : Scope → String
  | .account => "account"
  | .device => "device"
  | .episode => "episode"
  | .podcast => "podcast"

/-- The scope that a text names. Letter case counts. -/
def ofText? (text : String) : Option Scope :=
  [Scope.account, .device, .episode, .podcast].find? fun scope => text == scope.name

/-- The name of a scope reads back as the scope. -/
theorem ofText?_name (scope : Scope) : ofText? scope.name = some scope := by
  cases scope <;> decide

end Scope

/-- The thing that settings belong to. An episode is given together with its podcast. -/
inductive Target where
  | account
  | device (deviceId : Int)
  | episode (podcastId episodeId : Int)
  | podcast (podcastId : Int)
  deriving DecidableEq, Repr

namespace Target

/-- The scope of a target. -/
def scope : Target → Scope
  | .account => .account
  | .device _ => .device
  | .episode _ _ => .episode
  | .podcast _ => .podcast

/-- The device of a target of scope device. -/
def device? : Target → Option Int
  | .device deviceId => some deviceId
  | _ => none

/-- The podcast of a target of scope podcast or episode. -/
def podcast? : Target → Option Int
  | .podcast podcastId => some podcastId
  | .episode podcastId _ => some podcastId
  | _ => none

/-- The episode of a target of scope episode. -/
def episode? : Target → Option Int
  | .episode _ episodeId => some episodeId
  | _ => none

end Target

end PodcastLedger
