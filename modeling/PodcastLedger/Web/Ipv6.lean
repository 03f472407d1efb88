import PodcastLedger.Text.Digits
import PodcastLedger.Web.Fault

/-!
# IPv6 addresses

Eight groups of up to four hexadecimal digits, of which one run of zeros may be left out. The last
two groups may be written as an IPv4 address. `Ipv6.parse` reads an address, `Ipv6.toText` writes
it in lower case with the first of the longest runs of two or more zero groups left out.
-/

namespace PodcastLedger.Web

/-- An IPv6 address as its eight groups. -/
structure Ipv6 where
  groups : List Nat
  deriving DecidableEq, Repr

namespace Ipv6

/-- The groups read so far: those in front of the gap, and those behind it once there is one. -/
structure Sides where
  front : List Nat
  back : Option (List Nat)

/-- Adds groups on the side that is being read. -/
def Sides.append (sides : Sides) (groups : List Nat) : Sides :=
  match sides.back with
  | none => { sides with front := sides.front ++ groups }
  | some back => { sides with back := some (back ++ groups) }

/-- All eight groups. Without a gap there must be eight; a gap stands for zeros. -/
def Sides.toGroups? (sides : Sides) : Option (List Nat) :=
  match sides.back with
  | none => if sides.front.length = 8 then some sides.front else none
  | some back =>
    some (sides.front ++ List.replicate (8 - sides.front.length - back.length) 0 ++ back)

/-- A byte in decimal without leading zeros. -/
def decimalByte? (digits : List Char) : Option Nat := do
  let value ← Text.numberOf? 10 digits
  if digits = [] ∨ (digits.head? = some '0' ∧ digits.length ≠ 1) ∨ 256 ≤ value then none
  else some value

/-- The two groups that four decimal bytes separated by dots stand for. -/
def embeddedIpv4? (text : List Char) : Option (List Nat) := do
  match ← (text.splitOn '.').mapM decimalByte? with
  | [first, second, third, fourth] => some [first * 256 + second, third * 256 + fourth]
  | _ => none

/-- Reads groups as long as there is room for more. A gap takes up one group at least. -/
def readGroups : Nat → Sides → List Char → Option Sides
  | _, sides, [] => some sides
  | 0, _, _ :: _ => none
  | room + 1, sides, ':' :: rest =>
    if sides.back.isSome then none else readGroups room ⟨sides.front ++ [0], some []⟩ rest
  | room + 1, sides, text =>
    let isHex := fun c => (Text.digitOf? 16 c).isSome
    let digits := (text.take 4).takeWhile isHex
    match Text.numberOf? 16 digits, text.drop digits.length with
    | some group, [] => some (sides.append [group])
    | some group, ':' :: rest =>
      if rest = [] then none else readGroups room (sides.append [group]) rest
    | some _, '.' :: _ =>
      if digits = [] ∨ room = 0 then none else (embeddedIpv4? text).map sides.append
    | _, _ => none

/-- Reads the text between the brackets of an IPv6 host. -/
def parse (text : List Char) : Except Fault Ipv6 :=
  let sides :=
    match text with
    | ':' :: ':' :: rest => readGroups 7 ⟨[0], some []⟩ rest
    | ':' :: _ => none
    | _ => readGroups 8 ⟨[], none⟩ text
  match sides.bind Sides.toGroups? with
  | some groups => .ok ⟨groups⟩
  | none => .error .ipv6

/-- The number of zero groups from a position on. -/
def zerosFrom (groups : List Nat) (position : Nat) : Nat :=
  ((groups.drop position).takeWhile (· == 0)).length

/-- The position of the first of the longest runs of zero groups. -/
def longestZeroRun (groups : List Nat) : Nat :=
  (List.range groups.length).foldl
    (fun best position =>
      if zerosFrom groups best < zerosFrom groups position then position else best) 0

/-- Groups in hexadecimal, separated by colons. -/
def groupsText (groups : List Nat) : List Char :=
  [':'].intercalate (groups.map (Nat.toDigits 16))

/-- The written form of an address. -/
def toText (address : Ipv6) : List Char :=
  let start := longestZeroRun address.groups
  let count := zerosFrom address.groups start
  if 2 ≤ count then
    groupsText (address.groups.take start) ++ [':', ':'] ++
      groupsText (address.groups.drop (start + count))
  else groupsText address.groups

end Ipv6

end PodcastLedger.Web
