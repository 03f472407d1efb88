/-!
# Letter case of keywords

Keywords are recognised in any letter case. Their letters are ASCII letters, and the only characters
beyond ASCII whose small form is such a letter is the Kelvin sign.
-/

namespace PodcastLedger.Text

/-- The small form of a character as far as it is an ASCII letter. Other characters stay. -/
def smallLetter (c : Char) : Char :=
  if c.toNat = 0x212A then 'k' else c.toLower

/-- A text as it is compared with a keyword. -/
def smallLetters (text : String) : String :=
  String.ofList (text.toList.map smallLetter)

end PodcastLedger.Text
