import PodcastLedger.Unicode.BidiClass
import PodcastLedger.Unicode.DomainMapping
import PodcastLedger.Unicode.Mark
import PodcastLedger.Unicode.NormalForm
import PodcastLedger.Web.Punycode

/-!
# Domain names

The ASCII form of an internationalised domain name (UTS #46, without transitional processing, the
stricter rules for host names, and limits of length). Characters are mapped, the name is brought
into normal form C and split at its dots, labels in Punycode are decoded, every label is checked,
and labels with characters beyond ASCII are encoded: `DomainName.toAscii?`.
-/

namespace PodcastLedger.Web.DomainName

open Unicode

/-- The prefix of a label in Punycode. -/
def encodedPrefix : List Char :=
  ['x', 'n', '-', '-']

/-- The name with every character mapped; `none` if a character is refused. -/
def mapCharacters : List Char → Option (List Char)
  | [] => some []
  | c :: rest =>
    match domainMapping c with
    | .keep => (mapCharacters rest).map (c :: ·)
    | .drop => mapCharacters rest
    | .replace text => (mapCharacters rest).map (text ++ ·)
    | .refuse => none

/-- A label as it is checked: decoded if it has the prefix of Punycode. -/
def decodeLabel? (label : List Char) : Option (List Char) :=
  match encodedPrefix.isPrefixOf? label with
  | some rest => Punycode.decode? rest
  | none => some label

/-- The label is subject to the rule for right-to-left names: it has a right-to-left character, or
claims to be in Punycode and is not. -/
def isRightToLeftLabel (label : List Char) : Bool :=
  match encodedPrefix.isPrefixOf? label with
  | some rest => (Punycode.decode? rest).all (·.any isRightToLeft)
  | none => false

/-- The classes that may follow the first character of a left-to-right label. -/
def leftToRightClasses : List BidiClass :=
  [.leftToRight, .europeanNumber, .europeanSeparator, .commonSeparator, .europeanTerminator,
    .otherNeutral, .boundaryNeutral, .nonspacingMark]

/-- The classes that may follow the first character of a right-to-left label. -/
def rightToLeftClasses : List BidiClass :=
  [.rightToLeft, .arabicLetter, .arabicNumber, .europeanNumber, .europeanSeparator,
    .commonSeparator, .europeanTerminator, .otherNeutral, .boundaryNeutral, .nonspacingMark]

/-- The last class before the nonspacing marks at the end. -/
def lastClass? (classes : List BidiClass) : Option BidiClass :=
  (classes.reverse.dropWhile (· == .nonspacingMark)).head?

/-- The rule for labels in a right-to-left name: a label has one direction, which its first
character shows, ends in a letter or number of that direction, and does not mix European and Arabic
numbers. -/
def keepsDirection (label : List Char) : Bool :=
  match label.map bidiClass with
  | [] => true
  | .leftToRight :: rest =>
    rest.all leftToRightClasses.contains &&
      (lastClass? (.leftToRight :: rest)).all
        [BidiClass.leftToRight, .europeanNumber].contains
  | first :: rest =>
    [BidiClass.rightToLeft, .arabicLetter].contains first &&
      rest.all rightToLeftClasses.contains &&
      (lastClass? (first :: rest)).any
        [BidiClass.rightToLeft, .arabicLetter, .europeanNumber, .arabicNumber].contains &&
      !(rest.contains .europeanNumber && rest.contains .arabicNumber)

/-- The label neither begins nor ends with a hyphen, does not begin with a mark, consists of
characters that the mapping keeps, and, in a right-to-left name, keeps its direction. -/
def isValidLabel (rightToLeft : Bool) (label : List Char) : Bool :=
  label.head? != some '-' && label.getLast? != some '-' && !label.head?.any isMark &&
    label.all (fun c => domainMapping c == .keep) && (!rightToLeft || keepsDirection label)

/-- The checked form of a label. What Punycode stands for must be in normal form C. -/
def checkLabel? (rightToLeft : Bool) (label : List Char) : Option (List Char) := do
  let decoded ← decodeLabel? label
  if isNormalFormC decoded && isValidLabel rightToLeft decoded then some decoded else none

/-- The ASCII form of a checked label. -/
def encodeLabel? (label : List Char) : Option (List Char) :=
  if label.all fun c => decide (c.toNat < 0x80) then some label
  else (Punycode.encode? label).map (encodedPrefix ++ ·)

/-- The ASCII form of a domain name. -/
def toAscii? (name : List Char) : Option (List Char) := do
  let mapped ← mapCharacters name
  let labels := (normalFormC mapped).splitOn '.'
  -- The direction of a name shows in its characters before they are mapped.
  let rightToLeft := name.any isRightToLeft || labels.any isRightToLeftLabel
  let ascii ← labels.mapM fun label => (checkLabel? rightToLeft label).bind encodeLabel?
  some (['.'].intercalate ascii)

end PodcastLedger.Web.DomainName
