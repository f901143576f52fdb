import HostDiscovery.Failure
import HostDiscovery.Text.Percent
import HostDiscovery.Url.Basic

/-!
# URLs that are refused

A request needs a URL with one of the two web schemes and a host. `refusal?`
says what is wrong with any other text, without contacting anything. A text
that looks like the web is read as a URL first, and one of another scheme is
written anew; any other text with a colon in it is taken as it stands. Either
must have square brackets in pairs and no character that may pass for a
delimiter. In every scheme an old character set covers user and password.
-/
namespace HostDiscovery.Url

open Text

def invalid (message : String) : Failure where
  kind := .invalidUrl
  message := message

def Fault.failure (f : Fault) : Failure := invalid ("Failed to parse: " ++ f.message)

def withoutScheme (url : Text) : Failure where
  kind := .missingScheme
  message := "Invalid URL " ++ String.ofList (quoted url)
    ++ ": No scheme supplied. Perhaps you meant https://" ++ String.ofList url ++ "?"

def withoutHost (url : Text) : Failure :=
  invalid ("Invalid URL " ++ String.ofList (quoted url) ++ ": No host supplied")

def invalidLabel : Failure := invalid "URL has an invalid label."

def ofUnknownScheme (url : Text) : Failure where
  kind := .unknownScheme
  message := "No connection adapters were found for " ++ String.ofList (quoted url)

/-! ## Delimiters -/

/-- Characters that stand for a delimiter, or for signs with one among them. -/
def delimiterLookalikes : List Nat := [
  0x2047, 0x2048, 0x2049, 0x2100, 0x2101, 0x2105, 0x2106, 0x2A74, 0xFE13, 0xFE16, 0xFE55, 0xFE56,
  0xFE5F, 0xFE6B, 0xFF03, 0xFF0F, 0xFF1A, 0xFF1F, 0xFF20]

/-- What stands between the scheme and the path, tabs and line breaks left out. -/
def looseAuthority (url : Text) : Text :=
  let url := url.filter fun c => c ≠ '\t' && c ≠ '\r' && c ≠ '\n'
  ((cutAuthority "/?#".toList (cutScheme url).2).1).getD []

def hasUnpairedBracket (authority : Text) : Bool :=
  authority.contains '[' != authority.contains ']'

def authorityRefusal? (authority : Text) : Option Failure :=
  if hasUnpairedBracket authority then some { kind := .value, message := "Invalid IPv6 URL" }
  else if authority.any fun c => delimiterLookalikes.contains c.toNat then
    some {
      kind := .value
      message := "netloc '" ++ String.ofList authority
        ++ "' contains invalid characters under NFKC normalization" }
  else none

/-! ## User and password -/

def isLatin (c : Char) : Bool := c.toNat < 256

/-- The first characters of a text that the old character set does not cover. -/
def latinRefusal? (s : Text) : Option Failure :=
  let start := (s.takeWhile isLatin).length
  match (s.drop start).takeWhile fun c => !isLatin c with
  | [] => none
  | [c] =>
    some {
      kind := .unencodable
      message := "'latin-1' codec can't encode character '" ++ String.ofList (codePointEscape c)
        ++ s!"' in position {start}: ordinal not in range(256)" }
  | cs =>
    let last := start + cs.length - 1
    some {
      kind := .unencodable
      message := "'latin-1' codec can't encode characters in position "
        ++ s!"{start}-{last}: ordinal not in range(256)" }

/-- A user with a password, both decoded, must be covered by the old character set. -/
def userRefusal? (authority : Text) : Option Failure :=
  match (cutUser authority).1.map (cutAt ':') with
  | some (user, some password) =>
    (latinRefusal? (Percent.decode user)).or (latinRefusal? (Percent.decode password))
  | _ => none

/-- What is wrong with a URL that is not of the web; at least nothing can connect to it. -/
def strangeRefusal (url : Text) : Failure :=
  let authority := looseAuthority url
  ((authorityRefusal? authority).or (userRefusal? authority)).getD (ofUnknownScheme url)

/-! ## The refusal -/

/-- Whether a text begins like the web schemes. -/
def beginsLikeWeb (url : Text) : Bool := ("http".toList).isPrefixOf (lower url)

def requestHost? (host : Text) : Option Text :=
  if !Label.isAscii host then Label.nameToAscii? host
  else if host.head? = some '*' || host.head? = some '.' then none
  else some host

/-- What is wrong with a URL that was read from a text. -/
def requestRefusal? (text : Text) (url : Url) : Option Failure :=
  match url.scheme, url.host.filter (!·.isEmpty) with
  | none, _ => some (withoutScheme text)
  | _, none => some (withoutHost text)
  | scheme, some host =>
    match requestHost? host with
    | none => some invalidLabel
    | some host =>
      if isWeb scheme then userRefusal? ((url.user.getD []) ++ ['@'])
      else some (strangeRefusal (Percent.normal { url with host := some host }.text))

/-- What is wrong with a URL, if anything. -/
def refusal? (text : String) : Option Failure :=
  let text := trimStart text.toList
  if text.contains ':' && !beginsLikeWeb text then some (strangeRefusal text)
  else
    match parse text with
    | .error f => some f.failure
    | .ok url => requestRefusal? text url

end HostDiscovery.Url
