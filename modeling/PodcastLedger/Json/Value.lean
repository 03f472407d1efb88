import PodcastLedger.Text.Digits

/-!
# JSON text

JSON values whose numbers are whole, and their two written forms: on one line without spaces
(`Json.compact`), and over several lines with two spaces for each level (`Json.pretty`). Members of
an object keep their order.
-/

namespace PodcastLedger

/-- A JSON value. -/
inductive Json where
  | null
  | bool (value : Bool)
  | int (value : Int)
  | text (value : String)
  | list (items : List Json)
  | object (members : List (String × Json))

namespace Json

/-- The text if there is one, and null otherwise. -/
def ofText? (value : Option String) : Json :=
  (value.map Json.text).getD .null

/-- The number if there is one, and null otherwise. -/
def ofInt? (value : Option Int) : Json :=
  (value.map Json.int).getD .null

/-- A character inside quotation marks: the quotation mark, the backslash and control characters
are escaped. -/
def escape (c : Char) : List Char :=
  if c = '"' ∨ c = '\\' then ['\\', c]
  else if c = '\n' then ['\\', 'n']
  else if c = '\t' then ['\\', 't']
  else if c = '\r' then ['\\', 'r']
  else if c.toNat = 8 then ['\\', 'b']
  else if c.toNat = 12 then ['\\', 'f']
  else if c.toNat < 0x20 then
    ['\\', 'u', '0', '0', Text.lowerHexDigit (c.toNat / 16), Text.lowerHexDigit (c.toNat % 16)]
  else [c]

/-- A text in quotation marks. -/
def quote (text : String) : String :=
  String.ofList ('"' :: text.toList.flatMap escape ++ ['"'])

/-- Joins texts with a comma and a separator between them. -/
def joined (separator : String) (texts : List String) : String :=
  ("," ++ separator).intercalate texts

mutual

/-- The written form on one line. -/
def compact : Json → String
  | .null => "null"
  | .bool value => toString value
  | .int value => toString value
  | .text value => quote value
  | .list items => "[" ++ joined "" (compactItems items) ++ "]"
  | .object members => "\x7b" ++ joined "" (compactMembers members) ++ "\x7d"

/-- The written forms of the items of a list. -/
def compactItems : List Json → List String
  | [] => []
  | item :: items => item.compact :: compactItems items

/-- The written forms of the members of an object. -/
def compactMembers : List (String × Json) → List String
  | [] => []
  | (name, value) :: members => (quote name ++ ":" ++ value.compact) :: compactMembers members

end

/-- The start of a line at a level. -/
def lineStart (level : Nat) : String :=
  "\n".pushn ' ' (2 * level)

/-- Puts brackets around parts, each on a line of its own one level deeper. Without parts the
brackets stand together. -/
def bracketed (opening closing : String) (level : Nat) (parts : List String) : String :=
  if parts = [] then opening ++ closing
  else
    opening ++ lineStart (level + 1) ++ joined (lineStart (level + 1)) parts ++ lineStart level ++
      closing

mutual

/-- The written form over several lines, at a level of indentation. -/
def prettyAt (level : Nat) : Json → String
  | .list items => bracketed "[" "]" level (prettyItems (level + 1) items)
  | .object members => bracketed "\x7b" "\x7d" level (prettyMembers (level + 1) members)
  | .null => "null"
  | .bool value => toString value
  | .int value => toString value
  | .text value => quote value

/-- The written forms of the items of a list. -/
def prettyItems (level : Nat) : List Json → List String
  | [] => []
  | item :: items => item.prettyAt level :: prettyItems level items

/-- The written forms of the members of an object. -/
def prettyMembers (level : Nat) : List (String × Json) → List String
  | [] => []
  | (name, value) :: members =>
    (quote name ++ ": " ++ value.prettyAt level) :: prettyMembers level members

end

/-- The written form over several lines. -/
def pretty (value : Json) : String :=
  value.prettyAt 0

end Json

end PodcastLedger
