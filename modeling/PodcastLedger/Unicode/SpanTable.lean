import PodcastLedger.Text.Digits

/-!
# Tables over ranges of code points

A property of characters is kept as a table of disjoint spans of code points in ascending order.
A span is written as its first code point, a hyphen and its last one if it has several, a sign, and
a payload, all in hexadecimal: `DF-FF=` or `C0>41.300`. `SpanTable.find?` searches by halving.
-/

namespace PodcastLedger.Unicode

/-- The code points from `first` to `last`, with what the table says about them. -/
structure Span (α : Type) where
  first : Nat
  last : Nat
  value : α

/-- Spans in ascending order, no two of which overlap. -/
abbrev SpanTable (α : Type) := Array (Span α)

namespace Span

/-- Reads one written span; `value?` reads its sign and payload. -/
def ofText? {α : Type} (value? : Char → List Char → Option α) (text : List Char) :
    Option (Span α) := do
  let isHex := fun c => (Text.digitOf? 16 c).isSome
  let first ← Text.numberOf? 16 (text.takeWhile isHex)
  let afterFirst := text.dropWhile isHex
  let afterHyphen := afterFirst.drop 1
  let (last, mark) ←
    if afterFirst.head? = some '-' then do
      some (← Text.numberOf? 16 (afterHyphen.takeWhile isHex), afterHyphen.dropWhile isHex)
    else some (first, afterFirst)
  match mark with
  | [] => none
  | sign :: payload => do some ⟨first, last, ← value? sign payload⟩

end Span

namespace SpanTable

/-- Reads the spans of a text, which are separated by spaces and line ends. -/
def ofText {α : Type} (value? : Char → List Char → Option α) (text : String) : SpanTable α :=
  ((text.toList.splitOnP fun c => c == ' ' || c == '\n').filterMap (Span.ofText? value?)).toArray

/-- The span between the positions `low` and `high` that contains the code point. -/
def search {α : Type} (table : SpanTable α) (code low high : Nat) : Option (Span α) :=
  if hbounds : low < high ∧ high ≤ table.size then
    let middle := (low + high) / 2
    let span := table[middle]
    if code < span.first then search table code low middle
    else if span.last < code then search table code (middle + 1) high
    else some span
  else none
termination_by high - low

/-- The span that contains the code point. -/
def find? {α : Type} (table : SpanTable α) (code : Nat) : Option (Span α) :=
  search table code 0 table.size

end SpanTable

/-- Reads code points in hexadecimal separated by dots. -/
def codesOfText? (text : List Char) : Option (List Nat) :=
  (text.splitOn '.').mapM (Text.numberOf? 16)

end PodcastLedger.Unicode
