import PodcastLedger.Text.Digits
import PodcastLedger.Web.Fault

/-!
# IPv4 addresses

Numeric hosts of up to four parts, each in decimal, hexadecimal or octal. `Ipv4.parse` tells apart
hosts that are names, hosts that are addresses, and numeric hosts that are out of range; an address
is written as four decimal numbers.
-/

namespace PodcastLedger.Web

/-- An IPv4 address as a number. -/
structure Ipv4 where
  value : Nat
  deriving DecidableEq, Repr

namespace Ipv4

/-- The value of one part: hexadecimal after `0x`, octal after any other `0`, decimal otherwise.
`none` if it is empty or has other characters than digits. -/
def partValue? : List Char → Option Nat
  | [] => none
  | '0' :: 'x' :: digits => Text.numberOf? 16 digits
  | '0' :: 'X' :: digits => Text.numberOf? 16 digits
  | '0' :: digit :: digits => Text.numberOf? 8 (digit :: digits)
  | digits => Text.numberOf? 10 digits

/-- The parts of a numeric host; an empty part after the last dot does not count. -/
def parts (host : List Char) : List (List Char) :=
  let split := host.splitOn '.'
  if split.getLast? = some [] then split.dropLast else split

/-- The address of the given part values: all parts but the last are bytes, and the last fills the
bytes that remain. -/
def ofParts (leading : List Nat) (last : Nat) : Except Fault Ipv4 :=
  if last < 1 <<< (8 * (4 - leading.length)) ∧ ∀ part ∈ leading, part < 256 then
    .ok ⟨leading.zipIdx.foldl (fun sum (part, place) => sum + part <<< (8 * (3 - place))) last⟩
  else .error .ipv4

/-- Reads a host as an address. The result is `none` if the host is a name: if it has more than
four parts or one that is no number. Numbers of more than 32 bits are never an address. -/
def parse (host : List Char) : Except Fault (Option Ipv4) :=
  let split := parts host
  match if split.length ≤ 4 then split.mapM partValue? else none with
  | none => .ok none
  | some values =>
    match values.getLast? with
    | none => .ok none
    | some last => (ofParts values.dropLast last).map some

/-- The four bytes in decimal, separated by dots. -/
def toText (address : Ipv4) : List Char :=
  ['.'].intercalate
    ([24, 16, 8, 0].map fun shift => Nat.toDigits 10 (address.value >>> shift % 256))

end Ipv4

end PodcastLedger.Web
