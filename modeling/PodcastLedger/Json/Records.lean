import PodcastLedger.Device.Registry
import PodcastLedger.Episode.View
import PodcastLedger.Json.Value
import PodcastLedger.Time.Rfc3339

/-!
# Records in JSON

The JSON forms in which records leave the library: podcasts, devices, users and views of episode
actions, with their members in alphabetical order after the id. Views show neither the ids of rows
nor users their passwords.
-/

namespace PodcastLedger

/-- A device with all that is recorded about it. -/
structure DeviceRecord where
  id : Int
  caption : String
  createdAt : Instant
  kind : String
  name : String
  updatedAt : Instant
  userId : Int
  deriving DecidableEq

/-- A user with all that is recorded about it and may be shown. -/
structure UserRecord where
  id : Int
  createdAt : Instant
  locked : Bool
  name : String
  deriving DecidableEq

/-- An instant in JSON. -/
def Instant.toJson (instant : Instant) : Json :=
  .text instant.toText

/-- A podcast in JSON. -/
def Podcast.toJson (podcast : Entry Podcast) : Json :=
  .object
    [("id", .int podcast.id),
      ("description", .ofText? podcast.row.description),
      ("subscribed", .bool podcast.row.subscribed),
      ("title", .ofText? podcast.row.title),
      ("updated_at", podcast.row.updatedAt.toJson),
      ("url", .text podcast.row.url),
      ("user_id", .int podcast.row.userId),
      ("website", .ofText? podcast.row.website)]

namespace DeviceRecord

/-- The members of a device in JSON. -/
def members (device : DeviceRecord) : List (String × Json) :=
  [("id", .int device.id),
    ("caption", .text device.caption),
    ("created_at", device.createdAt.toJson),
    ("device_type", .text device.kind),
    ("name", .text device.name),
    ("updated_at", device.updatedAt.toJson),
    ("user_id", .int device.userId)]

/-- A device in JSON. -/
def toJson (device : DeviceRecord) : Json :=
  .object device.members

/-- A device and the number of subscriptions of its user in JSON. -/
def toSummaryJson (device : DeviceRecord) (subscriptions : Int) : Json :=
  .object (device.members ++ [("subscriptions", .int subscriptions)])

end DeviceRecord

/-- A user in JSON. -/
def UserRecord.toJson (user : UserRecord) : Json :=
  .object
    [("id", .int user.id),
      ("created_at", user.createdAt.toJson),
      ("locked", .bool user.locked),
      ("username", .text user.name)]

/-- The view of an episode action in JSON. -/
def ActionView.toJson (view : ActionView) : Json :=
  .object
    [("action", .text view.action),
      ("device", .ofText? view.device),
      ("episode", .text view.episode),
      ("guid", .ofText? view.guid),
      ("podcast", .text view.podcast),
      ("position", .ofInt? view.position),
      ("started", .ofInt? view.started),
      ("timestamp", view.timestamp.toJson),
      ("total", .ofInt? view.total)]

/-- What a listing shows of a device and the subscriptions of its user. -/
def Store.DeviceSummary.toJson (summary : Store.DeviceSummary) : Json :=
  .object
    [("caption", .text summary.device.row.caption),
      ("device_type", .text summary.device.row.kind.name),
      ("name", .text summary.device.row.name),
      ("subscriptions", .int summary.subscriptions)]

/-- What the creation of an account shows of it. -/
def User.toJson (user : User) : Json :=
  .object [("locked", .bool user.locked), ("username", .text user.name)]

end PodcastLedger
