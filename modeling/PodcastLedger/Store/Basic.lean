import PodcastLedger.Failure.Basic
import PodcastLedger.Store.Rows
import PodcastLedger.Store.Table

/-!
# The store

Six tables, and what all statements on them have in common: a statement is refused if it carries a
text with the null character, a time before the first date, or a row that breaks a constraint.
-/

namespace PodcastLedger

/-- The records of all users. -/
structure Store where
  users : Table User
  devices : Table Device
  podcasts : Table Podcast
  episodes : Table Episode
  actions : Table EpisodeAction
  settings : Table Setting
  deriving DecidableEq

/-- The text can be part of a statement: it does not contain the null character. -/
def IsBindable (text : String) : Prop :=
  '\x00' ∉ text.toList

/-- A null character is looked for in the text. -/
instance (text : String) : Decidable (IsBindable text) :=
  inferInstanceAs (Decidable (_ ∉ _))

namespace Store

/-- The store without rows. -/
def empty : Store :=
  ⟨.empty, .empty, .empty, .empty, .empty, .empty⟩

/-- The statement is refused unless the condition holds. -/
def require (condition : Prop) [Decidable condition] (statement : Statement) :
    Except Failure Unit :=
  if condition then .ok () else .error (.refused statement)

/-- A condition that holds lets the statement pass. -/
@[simp] theorem require_of {condition : Prop} [Decidable condition] {statement : Statement}
    (hcondition : condition) : require condition statement = .ok () :=
  if_pos hcondition

/-- A statement passes only if its condition holds. -/
theorem require_eq_ok_iff {condition : Prop} [Decidable condition] {statement : Statement}
    {done : Unit} : require condition statement = .ok done ↔ condition := by
  simp [require]

end Store

end PodcastLedger
