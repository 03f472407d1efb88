import PodcastLedger.Time.Rfc3339

/-!
# Elapsed time

A number of nanoseconds in the largest unit in which it is at least one, with three decimal places.
The number goes through binary floating point with a significand of 53 bits: it is rounded, divided
and rounded again, and the places are those of the exact binary value. Every rounding goes to the
nearest value and from a tie to the even one; `two_mul_dist_roundDiv` bounds its error.
-/

namespace PodcastLedger.Elapsed

/-- The whole number nearest to a quotient; a tie goes to the even one. -/
def roundDiv (number divisor : Nat) : Nat :=
  let quotient := number / divisor
  let rest := 2 * (number % divisor)
  if rest < divisor ∨ (rest = divisor ∧ quotient % 2 = 0) then quotient else quotient + 1

/-- A rounded quotient is off by half a unit at most. -/
theorem two_mul_dist_roundDiv (number divisor : Nat) (hdivisor : 0 < divisor) :
    2 * number ≤ 2 * (roundDiv number divisor * divisor) + divisor ∧
      2 * (roundDiv number divisor * divisor) ≤ 2 * number + divisor := by
  have hnumber := Nat.div_add_mod number divisor
  have hrest := Nat.mod_lt number hdivisor
  rw [Nat.mul_comm] at hnumber
  unfold roundDiv
  simp only
  split
  · omega
  · rw [Nat.add_mul]
    omega

/-- The exponent of the last of 53 significant bits of a number. -/
def excessBits (number : Nat) : Nat :=
  Nat.log2 number - 52

/-- The number with 53 significant bits that is nearest to a given one. -/
def roundToDouble (number : Nat) : Nat :=
  roundDiv number (1 <<< excessBits number) <<< excessBits number

/-- Thousandths of the quotient of a number and a smaller divisor. The quotient is first rounded to
53 significant bits. -/
def thousandths (number divisor : Nat) : Nat :=
  -- With this scale the quotient lies between 2 ^ 52 and 2 ^ 53.
  let scale := 1 <<< (52 - Nat.log2 (number / divisor))
  roundDiv (roundDiv (number * scale) divisor * 1000) scale

/-- The number of nanoseconds of a unit, and its name. -/
def unit (nanos : Nat) : Nat × String :=
  if 1000000000 ≤ nanos then (1000000000, "s")
  else if 1000000 ≤ nanos then (1000000, "ms")
  else if 1000 ≤ nanos then (1000, "\u00b5s")
  else (1, "ns")

/-- The written form of a number of nanoseconds. -/
def toText (nanos : Nat) : String :=
  let (divisor, name) := unit nanos
  let places := thousandths (roundToDouble nanos) divisor
  toString (places / 1000) ++ "." ++ Text.padded 3 (places % 1000) ++ name

/-- Whole milliseconds of a duration; the rest is dropped. -/
def millis (seconds nanos : Nat) : Nat :=
  seconds * 1000 + nanos / 1000000

end PodcastLedger.Elapsed
