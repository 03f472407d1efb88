import PodcastLedger.Text.Digits
import PodcastLedger.Web.Host

/-!
# Authorities

The part of a web address between the slashes and the path: user name and password, host and port.
`Authority.parse` reads it and `Authority.toText` writes it, without what is empty or goes without
saying.
-/

namespace PodcastLedger.Web

/-- A user name and a password, in percent encoding. -/
structure UserInfo where
  user : List Char
  password : List Char
  deriving DecidableEq, Repr

/-- The authority of a web address. The port is left out where it is the usual one. -/
structure Authority where
  userInfo : UserInfo
  host : Host
  port : Option Nat
  deriving DecidableEq, Repr

namespace UserInfo

/-- Reads what stands in front of the last `@`: the password follows the first colon. -/
def parse (text : List Char) : UserInfo :=
  let encode := Percent.encode Percent.isEscapedInUserInfo
  ⟨encode (text.takeWhile (· != ':')), encode ((text.dropWhile (· != ':')).drop 1)⟩

/-- The written form: a colon goes with a password and the `@` with either. -/
def toText (userInfo : UserInfo) : List Char :=
  let password := if userInfo.password = [] then [] else ':' :: userInfo.password
  let text := userInfo.user ++ password
  if text = [] then [] else text ++ ['@']

end UserInfo

namespace Authority

/-- The text in front of the last `@` and the text behind it; without `@` all is behind. -/
def splitUserInfo (text : List Char) : List Char × List Char :=
  let behind := (text.reverse.takeWhile (· != '@')).reverse
  (text.take (text.length - behind.length - 1), behind)

/-- The text up to the first colon outside brackets, and the text from there on. -/
def splitPort (bracketed : Bool) : List Char → List Char × List Char
  | [] => ([], [])
  | c :: rest =>
    if c = ':' ∧ bracketed = false then ([], c :: rest)
    else
      let (host, port) := splitPort (c == '[' || (bracketed && c != ']')) rest
      (c :: host, port)

/-- Reads a port, which is `none` if nothing or the usual one stands there. -/
def parsePort (usual : Option Nat) (digits : List Char) : Except Fault (Option Nat) :=
  match Text.numberOf? 10 digits with
  | none => .error .port
  | some port =>
    if 65535 < port then .error .port
    else .ok (if digits = [] ∨ usual = some port then none else some port)

/-- Reads an authority in which the host is read by `parseHost`. -/
def parseWith (parseHost : List Char → Except Fault Host) (usualPort : Option Nat)
    (text : List Char) : Except Fault Authority := do
  let (userText, hostAndPort) := splitUserInfo text
  let (hostText, portText) := splitPort false hostAndPort
  let host ← parseHost hostText
  let port ← parsePort usualPort (portText.drop 1)
  .ok ⟨UserInfo.parse userText, host, port⟩

/-- The written form of an authority. -/
def toText (authority : Authority) : List Char :=
  authority.userInfo.toText ++ authority.host.toText ++
    match authority.port with
    | none => []
    | some port => ':' :: Nat.toDigits 10 port

end Authority

end PodcastLedger.Web
