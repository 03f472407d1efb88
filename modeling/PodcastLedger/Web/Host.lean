import PodcastLedger.Web.DomainName
import PodcastLedger.Web.Ipv4
import PodcastLedger.Web.Ipv6
import PodcastLedger.Web.Percent

/-!
# Hosts

The host of a web address is a name, an IPv4 address or an IPv6 address in brackets. `Host.parse`
reads one and `Host.toText` writes it.
-/

namespace PodcastLedger.Web

/-- The host of a web address. -/
inductive Host where
  | name (text : List Char)
  | ipv4 (address : Ipv4)
  | ipv6 (address : Ipv6)
  deriving DecidableEq, Repr

namespace Host

/-- The characters that no name may contain: those that would end or split the host. -/
def isForbidden (c : Char) : Bool :=
  ['\x00', '\t', '\n', '\r', ' ', '#', '%', '/', ':', '?', '@', '[', '\\', ']'].contains c

/-- Reads a host in brackets. -/
def parseBracketed (text : List Char) : Except Fault Host :=
  if text.getLast? = some ']' then (Ipv6.parse text.dropLast).map .ipv6 else .error .ipv6

/-- Reads the ASCII form of a name, which is an IPv4 address if it is numeric. -/
def ofAscii (text : List Char) : Except Fault Host :=
  if text.any isForbidden then .error .nameCharacter
  else (Ipv4.parse text).map fun
    | some address => .ipv4 address
    | none => .name text

/-- Reads a host. Percent encoding in a name is undone before the name is brought into its ASCII
form. -/
def parse (text : List Char) : Except Fault Host :=
  match text with
  | '[' :: rest => parseBracketed rest
  | _ =>
    match (Percent.decode? text).bind DomainName.toAscii? with
    | some ascii => ofAscii ascii
    | none => .error .internationalName

/-- Reads the host of an address whose scheme does not prescribe one: a name is taken as it is. -/
def parseOpaque (text : List Char) : Except Fault Host :=
  match text with
  | '[' :: rest => parseBracketed rest
  | _ =>
    if text.any fun c => isForbidden c && c != '%' then .error .nameCharacter
    else .ok (.name text)

/-- The written form of a host. -/
def toText : Host → List Char
  | .name text => text
  | .ipv4 address => address.toText
  | .ipv6 address => '[' :: address.toText ++ [']']

end Host

end PodcastLedger.Web
