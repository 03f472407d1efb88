import PodcastLedger.Time.Instant

/-!
# Views of episode actions

An episode action as clients know it, with addresses and names in place of ids. `ActionView.Before`
orders views by time and, at one time, by the order in which they were recorded.
`ActionView.latest` keeps the last view of each episode and `ActionView.sort` puts views in order.
-/

namespace PodcastLedger

/-- An episode action with the addresses and the name that clients know. -/
structure ActionView where
  id : Int
  episodeId : Int
  action : String
  device : Option String
  episode : String
  guid : Option String
  podcast : String
  position : Option Int
  started : Option Int
  timestamp : Instant
  total : Option Int
  deriving DecidableEq

/-- The order of a listing. -/
inductive SortOrder where
  | ascending
  | descending
  deriving DecidableEq, Repr

namespace ActionView

/-- The first view is earlier, or as early and recorded before. -/
def Before (first second : ActionView) : Prop :=
  first.timestamp < second.timestamp ∨
    (first.timestamp = second.timestamp ∧ first.id < second.id)

/-- Views are compared by their times and ids. -/
instance (first second : ActionView) : Decidable (first.Before second) :=
  inferInstanceAs (Decidable (_ ∨ _))

/-- Puts a view among the latest views of other episodes, where it replaces an earlier one of its
episode. -/
def insertLatest (view : ActionView) : List ActionView → List ActionView
  | [] => [view]
  | current :: rest =>
    if current.episodeId = view.episodeId then
      (if current.Before view then view else current) :: rest
    else current :: insertLatest view rest

/-- The latest view of each episode, episodes in the order of their first views. -/
def latest (views : List ActionView) : List ActionView :=
  views.foldl (fun kept view => insertLatest view kept) []

/-- The views in order. Descending order is the reverse of ascending order. -/
def sort (order : SortOrder) (views : List ActionView) : List ActionView :=
  let sorted := views.mergeSort fun first second => !decide (second.Before first)
  match order with
  | .ascending => sorted
  | .descending => sorted.reverse

end ActionView

end PodcastLedger
