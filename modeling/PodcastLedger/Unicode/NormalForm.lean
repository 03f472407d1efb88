import PodcastLedger.Unicode.CombiningClass
import PodcastLedger.Unicode.Decomposition

/-!
# Normal form C

Canonical decomposition, canonical ordering of marks, and composition. `normalFormC` takes a text
to its composed normal form, and `normalFormC_of_ascii` says that a text of ASCII characters is in
that form already.
-/

namespace PodcastLedger.Unicode

/-- The first code points of the Hangul blocks: syllables, leading consonants, vowels, and the code
point before the trailing consonants. -/
def hangulSyllables : Nat := 0xAC00

/-- The first leading consonant. -/
def hangulLeads : Nat := 0x1100

/-- The first vowel. -/
def hangulVowels : Nat := 0x1161

/-- The code point before the first trailing consonant. -/
def hangulTrails : Nat := 0x11A7

/-- A Hangul syllable as its leading consonant, vowel and trailing consonant if it has one. -/
def decomposeHangul (code : Nat) : List Char :=
  let index := code - hangulSyllables
  let lead := Char.ofNat (hangulLeads + index / 588)
  let vowel := Char.ofNat (hangulVowels + index % 588 / 28)
  if index % 28 = 0 then [lead, vowel] else [lead, vowel, Char.ofNat (hangulTrails + index % 28)]

/-- A leading consonant and a vowel form a syllable, and a syllable without trailing consonant
takes one. -/
def composeHangul? (first second : Nat) : Option Char :=
  if hangulLeads ≤ first ∧ first < hangulLeads + 19 ∧
      hangulVowels ≤ second ∧ second < hangulVowels + 21 then
    some (Char.ofNat
      (hangulSyllables + ((first - hangulLeads) * 21 + (second - hangulVowels)) * 28))
  else if hangulSyllables ≤ first ∧ first < hangulSyllables + 11172 ∧
      (first - hangulSyllables) % 28 = 0 ∧ hangulTrails < second ∧ second < hangulTrails + 28 then
    some (Char.ofNat (first + (second - hangulTrails)))
  else none

/-- One step of canonical decomposition. Characters below U+00C0 do not decompose. -/
def decomposeOnce (c : Char) : List Char :=
  if c.toNat < 0xC0 then [c]
  else if hangulSyllables ≤ c.toNat ∧ c.toNat < hangulSyllables + 11172 then
    decomposeHangul c.toNat
  else
    match decompositionTable.find? c.toNat with
    | some span => span.value.parts
    | none => [c]

/-- The canonical decomposition of a text. Three steps reach the end of every chain of
decompositions. -/
def decompose (text : List Char) : List Char :=
  ((text.flatMap decomposeOnce).flatMap decomposeOnce).flatMap decomposeOnce

/-- Puts a character in front of a text in canonical order: a mark moves behind the marks of lower
class that follow it directly. -/
def insertMark (c : Char) : List Char → List Char
  | [] => [c]
  | next :: rest =>
    if 0 < combiningClass next ∧ combiningClass next < combiningClass c then
      next :: insertMark c rest
    else c :: next :: rest

/-- The text with every run of marks in ascending order of class, marks of one class in the order
in which they stood. -/
def orderMarks (text : List Char) : List Char :=
  text.foldr insertMark []

/-- The character that a base character and the character after it compose to. Nothing below
U+0300 composes with what stands before it. -/
def composePair? (first second : Char) : Option Char :=
  if second.toNat < 0x300 then none
  else (composeHangul? first.toNat second.toNat).or (compositionPairs.lookup (first, second))

/-- Composes the text that follows a base character. `passed` holds, last first, the marks between
the base and the rest that did not compose, and a later mark reaches the base only past marks of
lower class. -/
def composeAfter (base : Char) (passed : List Char) : List Char → List Char
  | [] => base :: passed.reverse
  | c :: rest =>
    let reachesBase :=
      match passed with
      | [] => true
      | last :: _ => decide (combiningClass last < combiningClass c)
    match if reachesBase then composePair? base c else none with
    | some composed => composeAfter composed passed rest
    | none =>
      if combiningClass c = 0 then base :: passed.reverse ++ composeAfter c [] rest
      else composeAfter base (c :: passed) rest

/-- Composes a text in canonical order. Marks in front of the first base character stay. -/
def compose : List Char → List Char
  | [] => []
  | c :: rest => if combiningClass c = 0 then composeAfter c [] rest else c :: compose rest

/-- The text in normal form C. -/
def normalFormC (text : List Char) : List Char :=
  compose (orderMarks (decompose text))

/-- The text is in normal form C. -/
def isNormalFormC (text : List Char) : Bool :=
  normalFormC text == text

section Ascii

variable {text : List Char}

/-- Characters below U+00C0 do not decompose. -/
theorem decomposeOnce_of_ascii (hascii : ∀ c ∈ text, c.toNat < 0x80) :
    text.flatMap decomposeOnce = text := by
  induction text with
  | nil => rfl
  | cons c rest ih =>
    have hsmall : c.toNat < 0xC0 := Nat.lt_trans (hascii c List.mem_cons_self) (by decide)
    rw [List.flatMap_cons, ih fun d hd => hascii d (List.mem_cons_of_mem _ hd)]
    simp [decomposeOnce, hsmall]

/-- ASCII characters are in canonical order. -/
theorem orderMarks_of_ascii (hascii : ∀ c ∈ text, c.toNat < 0x80) : orderMarks text = text := by
  induction text with
  | nil => rfl
  | cons c rest ih =>
    have hmark : combiningClass c = 0 :=
      combiningClass_of_lt (Nat.lt_trans (hascii c List.mem_cons_self) (by decide))
    have hordered := ih fun d hd => hascii d (List.mem_cons_of_mem _ hd)
    simp only [orderMarks, List.foldr_cons] at hordered ⊢
    rw [hordered]
    cases rest with
    | nil => rfl
    | cons => simp [insertMark, hmark]

/-- ASCII characters do not compose. -/
theorem composeAfter_of_ascii {base : Char} (hascii : ∀ c ∈ text, c.toNat < 0x80) :
    composeAfter base [] text = base :: text := by
  induction text generalizing base with
  | nil => rfl
  | cons c rest ih =>
    have hsmall : c.toNat < 0x300 := Nat.lt_trans (hascii c List.mem_cons_self) (by decide)
    simp [composeAfter, composePair?, hsmall, combiningClass_of_lt hsmall,
      ih fun d hd => hascii d (List.mem_cons_of_mem _ hd)]

/-- A text of ASCII characters is in normal form C. -/
theorem normalFormC_of_ascii (hascii : ∀ c ∈ text, c.toNat < 0x80) : normalFormC text = text := by
  have hdecompose : decompose text = text := by
    simp only [decompose, decomposeOnce_of_ascii hascii]
  rw [normalFormC, hdecompose, orderMarks_of_ascii hascii]
  cases text with
  | nil => rfl
  | cons c rest =>
    have hmark : combiningClass c = 0 :=
      combiningClass_of_lt (Nat.lt_trans (hascii c List.mem_cons_self) (by decide))
    simp [compose, hmark, composeAfter_of_ascii fun d hd => hascii d (List.mem_cons_of_mem _ hd)]

end Ascii

end PodcastLedger.Unicode
