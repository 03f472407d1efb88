import PodcastLedger.Text.LetterCase

/-!
# Kinds of episode actions

What a listener did with an episode. `ActionKind.ofText?` reads a kind in any letter case and
`ActionKind.name` writes it; `ofText?_name` says that what is written reads back.
-/

namespace PodcastLedger

/-- What a listener did with an episode. -/
inductive ActionKind where
  | delete
  | download
  | flattr
  | new
  | play
  deriving DecidableEq, Repr

namespace ActionKind

/-- The name of a kind of action. -/
def name : ActionKind → String
  | .delete => "delete"
  | .download => "download"
  | .flattr => "flattr"
  | .new => "new"
  | .play => "play"

/-- The kind of action that a text names in any letter case. -/
def ofText? (text : String) : Option ActionKind :=
  [ActionKind.delete, .download, .flattr, .new, .play].find? fun kind =>
    Text.smallLetters text == kind.name

/-- The name of a kind reads back as the kind. -/
theorem ofText?_name (kind : ActionKind) : ofText? kind.name = some kind := by
  cases kind <;> decide

end ActionKind

end PodcastLedger
