import PodcastLedger.Web.Address

/-!
# Canonical addresses

Clients write the address of one feed in many ways. `canonical?` takes a text to the one form that
is kept, or drops it; `canonicalAll` does so for a list, and notes what a client has to change on
its side.
-/

namespace PodcastLedger.Web

/-- The text in front of the first `://` if there is one. -/
def beforeSeparator? : List Char → Option (List Char)
  | [] => none
  | c :: rest =>
    if [':', '/', '/'].isPrefixOf (c :: rest) then some []
    else (beforeSeparator? rest).map (c :: ·)

/-- The text begins with a scheme: only characters of schemes stand in front of its first `://`. -/
def hasScheme (text : List Char) : Bool :=
  (beforeSeparator? text).any (·.all Address.isSchemeCharacter)

/-- The text with the scheme `http` if it has none. -/
def withScheme (text : List Char) : List Char :=
  if hasScheme text then text else Scheme.http.name ++ [':', '/', '/'] ++ text

/-- The address that a text stands for: blanks at its ends do not count, the scheme `http` goes
without saying, and other schemes than `http` and `https` are dropped, as is an empty host. -/
def address? (raw : List Char) : Option Address :=
  let text := Text.trim raw
  if text = [] then none
  else
    match Address.parse (withScheme text) with
    | .ok (some address) => if address.authority.host = .name [] then none else some address
    | _ => none

/-- The canonical form of an address; `none` if it is dropped. -/
def canonical? (raw : String) : Option String :=
  (address? raw.toList).map fun address => String.ofList address.toText

/-- A text that a client sent and what it should have sent, which is empty if it was dropped. -/
structure Rewrite where
  raw : String
  canonical : String
  deriving DecidableEq, Repr

/-- What a client has to change: nothing if it sent the canonical form. -/
def rewrite? (raw : String) : Option Rewrite :=
  match canonical? raw with
  | some url => if url = raw then none else some ⟨raw, url⟩
  | none => some ⟨raw, ""⟩

/-- Inserts a text into an ascending list unless it is there. Texts are ordered by code points,
which is the order of their bytes. -/
def insertText (text : String) : List String → List String
  | [] => [text]
  | next :: rest =>
    if text < next then text :: next :: rest
    else if text = next then next :: rest
    else next :: insertText text rest

/-- The distinct texts of a list in ascending order. -/
def distinctTexts (texts : List String) : List String :=
  texts.foldr insertText []

/-- The distinct canonical forms of a list of addresses, in ascending order. -/
def canonicalAll (raws : List String) : List String :=
  distinctTexts (raws.filterMap canonical?)

/-- What a client has to change in a list of addresses, in the order of the list. -/
def rewrites (raws : List String) : List Rewrite :=
  raws.filterMap rewrite?

section Distinct

/-- Insertion adds the one text. -/
theorem mem_insertText {text other : String} {texts : List String} :
    other ∈ insertText text texts ↔ other = text ∨ other ∈ texts := by
  induction texts with
  | nil => simp [insertText]
  | cons next rest ih =>
    simp only [insertText]
    split
    · simp
    · split
      · next heq => subst heq; simp
      · simp only [List.mem_cons, ih]
        grind

/-- Sorting out duplicates keeps the texts. -/
theorem mem_distinctTexts {text : String} {texts : List String} :
    text ∈ distinctTexts texts ↔ text ∈ texts := by
  induction texts with
  | nil => rfl
  | cons next rest ih =>
    rw [distinctTexts, List.foldr_cons, mem_insertText, ← distinctTexts, ih, List.mem_cons]

/-- Insertion keeps a list strictly ascending. -/
theorem pairwise_insertText {text : String} {texts : List String}
    (hascending : texts.Pairwise (· < ·)) : (insertText text texts).Pairwise (· < ·) := by
  induction texts with
  | nil => simp [insertText]
  | cons next rest ih =>
    obtain ⟨hnext, hrest⟩ := List.pairwise_cons.mp hascending
    simp only [insertText]
    split
    · next hlt =>
      refine List.pairwise_cons.mpr ⟨fun other hmem => ?_, hascending⟩
      rcases List.mem_cons.mp hmem with rfl | hmem
      · exact hlt
      · exact String.lt_trans hlt (hnext other hmem)
    · split
      · exact hascending
      · next hnlt hne =>
        refine List.pairwise_cons.mpr ⟨fun other hmem => ?_, ih hrest⟩
        rcases mem_insertText.mp hmem with rfl | hmem
        · exact Decidable.byContradiction fun hngt =>
            hne (String.le_antisymm (String.not_lt.mp hngt) (String.not_lt.mp hnlt))
        · exact hnext other hmem

/-- The distinct texts are strictly ascending. -/
theorem pairwise_distinctTexts (texts : List String) :
    (distinctTexts texts).Pairwise (· < ·) := by
  induction texts with
  | nil => exact List.Pairwise.nil
  | cons next rest ih => exact pairwise_insertText ih

end Distinct

end PodcastLedger.Web
