import PodcastLedger.Web.Fault

/-!
# Error reports

What is told and logged about an error: its cause, and the contexts that it was put into on the way
out. Errors that a user caused are told to the user as they are, as long as no context hides them;
`Report.isInternal_inContext` says that a context makes any error internal.
-/

namespace PodcastLedger

/-- The kinds of errors that a user causes. -/
inductive UserErrorKind where
  | noData
  | unknownDevice
  | unknownEpisode
  | unknownPodcast
  | unknownUser
  | validation
  deriving DecidableEq, Repr

namespace UserErrorKind

/-- The title of a kind of error. -/
def title : UserErrorKind → String
  | .noData => "No data"
  | .unknownDevice => "Unknown device"
  | .unknownEpisode => "Unknown episode"
  | .unknownPodcast => "Unknown podcast"
  | .unknownUser => "Unknown user"
  | .validation => "Validation error"

/-- The message of an error of a kind: the name of what is unknown is quoted. -/
def message (kind : UserErrorKind) (detail : String) : String :=
  match kind with
  | .noData => "No data: " ++ detail
  | .validation => "Validation failed: " ++ detail
  | unknown => unknown.title ++ ": \"" ++ detail ++ "\""

end UserErrorKind

/-- What went wrong in the first place. A `remark` is a plain message to the user, a `note` one that
is not. -/
inductive Cause where
  | user (kind : UserErrorKind) (detail : String)
  | remark (text : String)
  | note (text : String)
  | rowMissing
  | transactionAborted
  | connection (text : String)
  | inputOutput (text : String)
  | address (fault : Web.Fault)
  deriving DecidableEq, Repr

namespace Cause

/-- The message of a cause. -/
def message : Cause → String
  | .user kind detail => kind.message detail
  | .remark text => text
  | .note text => text
  | .rowMissing => "NotFound"
  | .transactionAborted => "The current transaction was aborted"
  | .connection text => text
  | .inputOutput text => text
  | .address fault => fault.message

/-- The title of a cause: plain messages are their own, and outside errors have none. -/
def title : Cause → String
  | .user kind _ => kind.title
  | .remark text => text
  | .note text => text
  | _ => ""

/-- The kind of error, if the user caused it. -/
def userErrorKind? : Cause → Option UserErrorKind
  | .user kind _ => some kind
  | _ => none

/-- The cause is one to tell the user. -/
def isForUser : Cause → Bool
  | .user _ _ => true
  | .remark _ => true
  | _ => false

end Cause

/-- An error: its cause, and its contexts from the innermost on. -/
structure Report where
  cause : Cause
  contexts : List String
  deriving DecidableEq, Repr

namespace Report

/-- All messages, from the cause on. -/
def messages (report : Report) : List String :=
  report.cause.message :: report.contexts

/-- The message of the outermost context, or of the cause. -/
def message (report : Report) : String :=
  report.contexts.getLast?.getD report.cause.message

/-- The title of the error: the outermost context, or the title of the cause. -/
def title (report : Report) : String :=
  report.contexts.getLast?.getD report.cause.title

/-- The kind of error, if the user caused it and no context hides it. -/
def userErrorKind? (report : Report) : Option UserErrorKind :=
  if report.contexts = [] then report.cause.userErrorKind? else none

/-- The message for the user, if the user caused the error and no context hides it. -/
def userMessage? (report : Report) : Option String :=
  if report.contexts = [] ∧ report.cause.isForUser then some report.cause.message else none

/-- The error is not one to tell the user. -/
def isInternal (report : Report) : Bool :=
  report.userMessage?.isNone

/-- The message that any client may see. -/
def publicMessage (report : Report) : String :=
  report.userMessage?.getD "Database error"

/-- The lines that are logged: the cause first, then every context. -/
def logLines (report : Report) : List String :=
  ("Error: " ++ report.cause.message) :: report.contexts.map ("Chained error: " ++ ·)

/-- The report with one more context around it. -/
def inContext (report : Report) (context : String) : Report :=
  { report with contexts := report.contexts ++ [context] }

/-- A context makes an error internal. -/
theorem isInternal_inContext (report : Report) (context : String) :
    (report.inContext context).isInternal = true := by
  simp [isInternal, userMessage?, inContext]

end Report

end PodcastLedger
