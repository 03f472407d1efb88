import PodcastLedger.Text.Blank
import PodcastLedger.Web.Authority
import PodcastLedger.Web.Path

/-!
# Web addresses

Reading and writing of addresses with the schemes `http` and `https`. `Address.parse` reads a text,
without its fragment, and `Address.toText` writes the canonical form. An address of another scheme
is not kept, but its faults are found.
-/

namespace PodcastLedger.Web

/-- The schemes of the addresses that are kept. -/
inductive Scheme where
  | http
  | https
  deriving DecidableEq, Repr

namespace Scheme

/-- The name of a scheme. -/
def name : Scheme → List Char
  | .http => ['h', 't', 't', 'p']
  | .https => ['h', 't', 't', 'p', 's']

/-- The port that goes without saying. -/
def port : Scheme → Nat
  | .http => 80
  | .https => 443

end Scheme

/-- A web address without fragment. The query is `none` if there is no question mark. -/
structure Address where
  scheme : Scheme
  authority : Authority
  path : List (List Char)
  query : Option (List Char)
  deriving DecidableEq, Repr

namespace Address

/-- The character may stand in a scheme. -/
def isSchemeCharacter (c : Char) : Bool :=
  c.isAlphanum || c == '+' || c == '-' || c == '.'

/-- The scheme in lower case and the text after its colon. -/
def splitScheme? (text : List Char) : Option (List Char × List Char) :=
  let scheme := text.takeWhile isSchemeCharacter
  match text.dropWhile isSchemeCharacter with
  | ':' :: rest =>
    if scheme.head?.any Char.isAlpha then some (scheme.map Char.toLower, rest) else none
  | _ => none

/-- The text that counts: without control characters and spaces at its ends, without tabulators and
line ends, and without the fragment. -/
def significant (text : List Char) : List Char :=
  ((Text.trimBy (fun c => decide (c.toNat ≤ 0x20)) text).filter
    fun c => c != '\t' && c != '\n' && c != '\r').takeWhile (· != '#')

/-- The character ends the authority of an address whose scheme prescribes one. -/
def endsAuthority (c : Char) : Bool :=
  c == '/' || c == '\\' || c == '?'

/-- Reads the text after the scheme: any number of slashes, an authority that must have a host, a
path and a query. -/
def parseAfterScheme (scheme : Scheme) (text : List Char) : Except Fault Address := do
  let hierarchy := text.dropWhile fun c => c == '/' || c == '\\'
  let parseHost := fun host => if host = [] then .error .emptyHost else Host.parse host
  let authority ←
    Authority.parseWith parseHost (some scheme.port) (hierarchy.takeWhile (! endsAuthority ·))
  let resource := hierarchy.dropWhile (! endsAuthority ·)
  let query :=
    match resource.dropWhile (· != '?') with
    | [] => none
    | _ :: rest => some (Percent.encode Percent.isEscapedInQuery rest)
  .ok ⟨scheme, authority, Path.parse (resource.takeWhile (· != '?')), query⟩

/-- Finds the faults of an address of another scheme. Some schemes prescribe an authority as `http`
does, files have a host that may be empty, and all others have an authority only after two
slashes. -/
def checkForeign (scheme text : List Char) : Except Fault Unit := do
  let isSlash := fun c => c == '/' || c == '\\'
  if ["ftp", "gopher", "ws", "wss"].contains (String.ofList scheme) then
    let _ ← parseAfterScheme .http text
  else if scheme = "file".toList then
    if (text.take 2).length = 2 ∧ (text.take 2).all isSlash then
      let host := (text.drop 2).takeWhile (! endsAuthority ·)
      let isDrive := host.length == 2 && host.head?.any Char.isAlpha &&
        host.getLast?.any fun c => c == ':' || c == '|'
      if host ≠ [] ∧ isDrive = false then
        let _ ← Host.parse host
  else if ['/', '/'].isPrefixOf text then
    let _ ← Authority.parseWith Host.parseOpaque none
      ((text.drop 2).takeWhile fun c => c != '/' && c != '?')

/-- Reads an address. The result is `none` if it is without fault but of another scheme. -/
def parse (text : List Char) : Except Fault (Option Address) :=
  match splitScheme? (significant text) with
  | none => .error .noScheme
  | some (scheme, rest) =>
    if scheme = Scheme.http.name then (parseAfterScheme .http rest).map some
    else if scheme = Scheme.https.name then (parseAfterScheme .https rest).map some
    else (checkForeign scheme rest).map fun _ => none

/-- The written form of an address. -/
def toText (address : Address) : List Char :=
  address.scheme.name ++ [':', '/', '/'] ++ address.authority.toText ++
    Path.toText address.path ++
    match address.query with
    | none => []
    | some query => '?' :: query

end Address

end PodcastLedger.Web
