/-!
# Faults of web addresses

The reasons for which a text is no web address, and their wording.
-/

namespace PodcastLedger.Web

/-- Why a text is no web address. -/
inductive Fault where
  | noScheme
  | emptyHost
  | internationalName
  | nameCharacter
  | ipv4
  | ipv6
  | port
  deriving DecidableEq, Repr

/-- The wording of a fault. -/
def Fault.message : Fault → String
  | .noScheme => "relative URL without a base"
  | .emptyHost => "empty host"
  | .internationalName => "invalid international domain name"
  | .nameCharacter => "invalid domain character"
  | .ipv4 => "invalid IPv4 address"
  | .ipv6 => "invalid IPv6 address"
  | .port => "invalid port number"

end PodcastLedger.Web
