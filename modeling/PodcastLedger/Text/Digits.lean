/-!
# Digits

Reading and writing of numbers in a given base, digit by digit.
-/

namespace PodcastLedger.Text

/-- The value of a letter or decimal digit as a digit, where `a` and `A` are ten. -/
def digitValue? (c : Char) : Option Nat :=
  let code := c.toNat
  if 0x30 ≤ code ∧ code ≤ 0x39 then some (code - 0x30)
  else if 0x61 ≤ code ∧ code ≤ 0x7A then some (code - 0x61 + 10)
  else if 0x41 ≤ code ∧ code ≤ 0x5A then some (code - 0x41 + 10)
  else none

/-- The value of a character as a digit of a base; `none` if it is no digit of that base. -/
def digitOf? (base : Nat) (c : Char) : Option Nat :=
  (digitValue? c).filter (· < base)

/-- The number that a list of digits stands for; no digits stand for zero. `none` if a character
is no digit of the base. -/
def numberOf? (base : Nat) (digits : List Char) : Option Nat :=
  digits.foldlM (fun number c => (digitOf? base c).map (number * base + ·)) 0

/-- A hexadecimal digit in lower case. -/
def lowerHexDigit (value : Nat) : Char :=
  Char.ofNat (if value < 10 then 0x30 + value else 0x57 + value)

/-- A hexadecimal digit in upper case. -/
def upperHexDigit (value : Nat) : Char :=
  Char.ofNat (if value < 10 then 0x30 + value else 0x37 + value)

end PodcastLedger.Text
