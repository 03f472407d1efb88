import PodcastLedger.Failure.Basic

/-!
# Names of users and devices

A name is a text of ASCII letters, digits, dots, hyphens and underscores that is not empty.
`validateName_eq_ok_iff` says that validation accepts exactly these.
-/

namespace PodcastLedger

/-- The character may stand in a name. -/
def isNameCharacter (c : Char) : Bool :=
  c.isAlphanum || c == '.' || c == '_' || c == '-'

/-- The text is a name of a user or device. -/
def IsName (text : String) : Prop :=
  text ≠ "" ∧ ∀ c ∈ text.toList, isNameCharacter c = true

/-- A text is looked through character by character. -/
instance (text : String) : Decidable (IsName text) :=
  decidable_of_iff (text ≠ "" ∧ text.toList.all isNameCharacter = true) (by simp [IsName])

/-- Refuses what is no name; `kind` says what it was to name. -/
def validateName (kind text : String) : Except Failure Unit :=
  if text = "" then .error (.invalid (.missingName kind))
  else if IsName text then .ok ()
  else .error (.invalid (.malformedName kind))

/-- Validation accepts exactly the names. -/
theorem validateName_eq_ok_iff {kind text : String} {done : Unit} :
    validateName kind text = .ok done ↔ IsName text := by
  unfold validateName
  split
  · next hempty => simp [IsName, hempty]
  · split <;> simp_all

end PodcastLedger
