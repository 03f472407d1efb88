import PodcastLedger.Failure.Report

/-!
# Failures

Why an operation fails: it breaks a rule, names something that is not there, or reaches a statement
that the store refuses. `Failure.report` puts a failure into words.
-/

namespace PodcastLedger

/-- The part of a settings key that a scope needs. -/
inductive KeyPart where
  | device
  | episode
  | podcast
  deriving DecidableEq, Repr

/-- The name of a part of a settings key. -/
def KeyPart.name : KeyPart → String
  | .device => "device"
  | .episode => "episode"
  | .podcast => "podcast"

/-- The measures of playback that an action may carry. -/
inductive PlaybackField where
  | started
  | position
  | total
  deriving DecidableEq, Repr

/-- The name of a measure of playback. -/
def PlaybackField.name : PlaybackField → String
  | .started => "started"
  | .position => "position"
  | .total => "total"

/-- The rules that input can break. -/
inductive Violation where
  | missingName (kind : String)
  | malformedName (kind : String)
  | shortPassword
  | workFactorOutOfRange
  | userNameTaken
  | unknownActionKind (text : String)
  | unknownDeviceKind (text : String)
  | unknownScope (text : String)
  | missingKeyPart (part : KeyPart)
  | sinceOutOfRange (seconds : Int)
  | addedAndRemoved (url : String)
  | fieldOfOtherAction (field : PlaybackField)
  | negativeField (field : PlaybackField)
  | invalidPodcastUrl (raw : String)
  | invalidEpisodeUrl (raw : String)
  | emptySettingKey
  | setAndRemoved (key : String)
  deriving DecidableEq, Repr

/-- The least number of bytes of a password. -/
def minPasswordLength : Nat := 8

/-- The least work factor of a password hash. -/
def minWorkFactor : Nat := 1

/-- The greatest work factor of a password hash. -/
def maxWorkFactor : Nat := 32

/-- The wording of a violation. -/
def Violation.message : Violation → String
  | .missingName kind => "Please specify a " ++ kind ++ " name."
  | .malformedName kind =>
    "A " ++ kind ++ " name may only contain letters, numbers, dots, dashes, and underscores."
  | .shortPassword =>
    "Password must be at least " ++ toString minPasswordLength ++ " characters long."
  | .workFactorOutOfRange =>
    "Scrypt work factor must be between " ++ toString minWorkFactor ++ " and " ++
      toString maxWorkFactor ++ "."
  | .userNameTaken => "A user with that name already exists."
  | .unknownActionKind text => "Unknown episode action \"" ++ text ++ "\"."
  | .unknownDeviceKind text => "Unknown device type \"" ++ text ++ "\"."
  | .unknownScope text => "Unknown scope \"" ++ text ++ "\"."
  | .missingKeyPart part => "Please specify the " ++ part.name ++ " for this scope."
  | .sinceOutOfRange seconds => "Since value " ++ toString seconds ++ " is out of range."
  | .addedAndRemoved url => "URL \"" ++ url ++ "\" can't be both added and removed."
  | .fieldOfOtherAction field =>
    "Field \"" ++ field.name ++ "\" may only be set for \"play\" actions."
  | .negativeField field => "Field \"" ++ field.name ++ "\" must not be negative."
  | .invalidPodcastUrl raw => "Invalid podcast URL \"" ++ raw ++ "\"."
  | .invalidEpisodeUrl raw => "Invalid episode URL \"" ++ raw ++ "\"."
  | .emptySettingKey => "Setting keys must not be empty."
  | .setAndRemoved key => "Setting \"" ++ key ++ "\" can't be both set and removed."

/-- The statements of the store that can be refused: those that carry a text or a time, or that are
bound by a constraint. -/
inductive Statement where
  | selectUser
  | insertUser
  | selectDevice
  | insertDevice
  | updateDevice
  | selectPodcast
  | selectPodcasts
  | selectSubscriptions
  | insertPodcast
  | updateSubscription
  | selectEpisode
  | insertEpisode
  | selectActions
  | insertActions
  | upsertSetting
  | deleteSetting
  deriving DecidableEq, Repr

/-- The context in which the failure of a statement is reported. -/
def Statement.context : Statement → String
  | .selectUser => "Error selecting user"
  | .insertUser => "Error inserting user"
  | .selectDevice => "Error selecting device"
  | .insertDevice => "Error inserting device"
  | .updateDevice => "Error updating device"
  | .selectPodcast => "Error selecting podcast"
  | .selectPodcasts => "Error selecting podcasts"
  | .selectSubscriptions => "Error selecting subscriptions"
  | .insertPodcast => "Error inserting podcast"
  | .updateSubscription => "Error updating podcast subscription"
  | .selectEpisode => "Error selecting episode"
  | .insertEpisode => "Error inserting episode"
  | .selectActions => "Error selecting episode actions"
  | .insertActions => "Error inserting episode actions"
  | .upsertSetting => "Error upserting setting"
  | .deleteSetting => "Error deleting setting"

/-- Why an operation fails. -/
inductive Failure where
  | invalid (violation : Violation)
  | unknownUser (name : String)
  | unknownDevice (name : String)
  | unknownPodcast (raw : String)
  | unknownEpisode (raw : String)
  | noActions (podcast : String)
  | refused (statement : Statement)
  deriving DecidableEq, Repr

/-- A failure in words. What the store refuses is reported in the context of the statement. -/
def Failure.report : Failure → Report
  | .invalid violation => ⟨.user .validation violation.message, []⟩
  | .unknownUser name => ⟨.user .unknownUser name, []⟩
  | .unknownDevice name => ⟨.user .unknownDevice name, []⟩
  | .unknownPodcast raw => ⟨.user .unknownPodcast raw, []⟩
  | .unknownEpisode raw => ⟨.user .unknownEpisode raw, []⟩
  | .noActions podcast =>
    ⟨.user .noData ("No episode actions for podcast \"" ++ podcast ++ "\"."), []⟩
  | .refused statement => ⟨.note "The statement was refused", [statement.context]⟩

/-- A failure is internal exactly if the store refused a statement. -/
theorem Failure.isInternal_report (failure : Failure) :
    failure.report.isInternal = true ↔ ∃ statement, failure = .refused statement := by
  cases failure <;> simp [Failure.report, Report.isInternal, Report.userMessage?, Cause.isForUser]

end PodcastLedger
