/-!
# Punycode

The encoding of labels of a domain name in ASCII (RFC 3492). The characters beyond ASCII are
written in ascending order as differences, in variable-length numbers of base 36 whose digit
thresholds adapt to the differences seen. All numbers have 32 bits; what would not fit fails.
`Punycode.decode?` reads one character at a time and `Punycode.encode?` writes one code point at a
time.
-/

namespace PodcastLedger.Web.Punycode

/-- The greatest number that the differences may reach. -/
def limit : Nat := 0xFFFFFFFF

/-- The value of a digit: letters of either case count from zero, decimal digits from 26. -/
def digitValue? (c : Char) : Option Nat :=
  let code := c.toNat
  if 0x30 ≤ code ∧ code ≤ 0x39 then some (code - 0x30 + 26)
  else if 0x61 ≤ code ∧ code ≤ 0x7A then some (code - 0x61)
  else if 0x41 ≤ code ∧ code ≤ 0x5A then some (code - 0x41)
  else none

/-- The digit of a value. -/
def digit (value : Nat) : Char :=
  Char.ofNat (if value < 26 then 0x61 + value else 0x16 + value)

/-- The least value at a place, counted in steps of 36, that is not the last digit of its
number. -/
def threshold (place bias : Nat) : Nat :=
  if place ≤ bias then 1 else if bias + 26 ≤ place then 26 else place - bias

/-- Every threshold is positive. -/
theorem threshold_pos (place bias : Nat) : 0 < threshold place bias := by
  unfold threshold
  split
  · decide
  · split
    · decide
    · omega

/-- Divides a difference by 35 until it is at most 455; every division raises the bias by 36. -/
def settle (difference bias : Nat) : Nat :=
  if hlarge : 455 < difference then settle (difference / 35) (bias + 36)
  else bias + 36 * difference / (difference + 38)
termination_by difference
decreasing_by exact Nat.div_lt_self (by omega) (by decide)

/-- The bias after a difference, when `count` characters are there. -/
def adapt (difference count : Nat) (first : Bool) : Nat :=
  let scaled := difference / if first then 700 else 2
  settle (scaled + scaled / count) 0

/-- The state of a decoder: the characters so far, the last code point, the bias, the position
reached and the one before the number that is being read, and the weight and place of the next
digit. -/
structure Decoder where
  output : List Char
  code : Nat
  bias : Nat
  position : Nat
  start : Nat
  weight : Nat
  place : Nat

/-- The decoder before the first difference. -/
def Decoder.initial (basic : List Char) : Decoder :=
  ⟨basic, 128, 72, 0, 0, 1, 36⟩

/-- Ends a number: inserts the character that it stands for. -/
def Decoder.finish (decoder : Decoder) (position : Nat) : Option Decoder :=
  -- A position counts the places of all code points from the last one on, `count` for each.
  let count := decoder.output.length + 1
  let code := decoder.code + position / count
  let place := position % count
  if limit < code ∨ ¬ code.isValidChar then none
  else some
    { output := decoder.output.insertIdx place (Char.ofNat code)
      code
      bias := adapt (position - decoder.start) count (decoder.start == 0)
      position := place + 1
      start := place + 1
      weight := 1
      place := 36 }

/-- Reads one digit. -/
def Decoder.step (decoder : Decoder) (c : Char) : Option Decoder := do
  let value ← digitValue? c
  let position := decoder.position + value * decoder.weight
  let bound := threshold decoder.place decoder.bias
  if limit < position then none
  else if value < bound then decoder.finish position
  else
    let weight := decoder.weight * (36 - bound)
    if limit < weight then none
    else some { decoder with position, weight, place := decoder.place + 36 }

/-- The part in front of the last hyphen, and the differences after it. A hyphen at the very start
separates nothing. -/
def splitBasic (text : List Char) : List Char × List Char :=
  let differences := (text.reverse.takeWhile (· != '-')).reverse
  let basic := text.take (text.length - differences.length - 1)
  if basic = [] then ([], text) else (basic, differences)

/-- Decodes a label without its prefix. A number must not break off at the end. -/
def decode? (text : List Char) : Option (List Char) := do
  let (basic, differences) := splitBasic text
  let decoder ← differences.foldlM Decoder.step (Decoder.initial basic)
  if decoder.place = 36 then some decoder.output else none

/-- The digits of a difference from a place on. -/
def differenceDigits (difference place bias : Nat) : List Char :=
  let bound := threshold place bias
  if hlast : difference < bound then [digit difference]
  else
    digit (bound + (difference - bound) % (36 - bound)) ::
      differenceDigits ((difference - bound) / (36 - bound)) (place + 36) bias
termination_by difference
decreasing_by
  have hbound : 0 < bound := threshold_pos place bias
  exact Nat.lt_of_le_of_lt (Nat.div_le_self _ _) (by omega)

/-- The state of an encoder: what is written, the difference that has grown, the bias, and the
number of characters that are written. -/
structure Encoder where
  output : List Char
  difference : Nat
  bias : Nat
  handled : Nat

/-- Passes one character of the label while the code point `code` is being written. -/
def Encoder.step (basicCount code : Nat) (encoder : Encoder) (c : Char) : Option Encoder :=
  if c.toNat < code then
    if limit ≤ encoder.difference then none
    else some { encoder with difference := encoder.difference + 1 }
  else if c.toNat = code then
    some
      { output := encoder.output ++ differenceDigits encoder.difference 36 encoder.bias
        difference := 0
        bias := adapt encoder.difference (encoder.handled + 1) (encoder.handled == basicCount)
        handled := encoder.handled + 1 }
  else some encoder

/-- Writes all occurrences of the given code points, which ascend from `next` on. -/
def encodeCodes (label : List Char) (basicCount : Nat) :
    List Nat → Nat → Encoder → Option (List Char)
  | [], _, encoder => some encoder.output
  | code :: codes, next, encoder =>
    let difference := encoder.difference + (code - next) * (encoder.handled + 1)
    if limit < difference then none
    else do
      let passed ← label.foldlM (Encoder.step basicCount code) { encoder with difference }
      encodeCodes label basicCount codes (code + 1)
        { passed with difference := passed.difference + 1 }

/-- Inserts a number into an ascending list unless it is there. -/
def insertAscending (number : Nat) : List Nat → List Nat
  | [] => [number]
  | next :: rest =>
    if number < next then number :: next :: rest
    else if number = next then next :: rest
    else next :: insertAscending number rest

/-- Encodes a label: its ASCII characters, a hyphen if there are any, and the differences. -/
def encode? (label : List Char) : Option (List Char) :=
  let basic := label.filter fun c => decide (c.toNat < 128)
  let codes :=
    ((label.map Char.toNat).filter fun code => decide (128 ≤ code)).foldr insertAscending []
  encodeCodes label basic.length codes 128
    ⟨if basic = [] then [] else basic ++ ['-'], 0, 72, basic.length⟩

end PodcastLedger.Web.Punycode
