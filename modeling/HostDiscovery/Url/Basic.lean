import HostDiscovery.Text.Quoted
import HostDiscovery.Url.Label

/-!
# URLs

A URL has a scheme, an authority with user, host and port, a path, a query and
a fragment, of which most may be missing. A text without a scheme is read as if
two slashes stood in front of it, so that it begins with a host. A host is a
name, in which a percent sign begins two hexadecimal digits, or an IPv6 address
in square brackets. Names in the web schemes are brought to their ASCII form.
-/
namespace HostDiscovery

structure Url where
  /-- In lower case. -/
  scheme : Option Text := none
  user : Option Text := none
  host : Option Text := none
  port : Option Nat := none
  path : Text := []
  query : Option Text := none
  fragment : Option Text := none
  deriving DecidableEq, Repr

namespace Url

open Text

inductive Fault
  | host (text : Text)
  | character (host : Text) (c : Char)
  | label (label : Text)
  | port (url : Text)
  deriving DecidableEq, Repr

def Fault.message : Fault → String
  | .host text => String.ofList (quoted text) ++ " is not a valid host or port"
  | .character name c =>
    "Host " ++ String.ofList (quoted name) ++ " contains invalid character "
      ++ String.ofList (quoted [c])
  | .label name => "Name '" ++ String.ofList name ++ "' is not a valid IDNA label"
  | .port url => String.ofList url

/-! ## The parts of a text -/

def isSchemeStart (c : Char) : Bool := c.isAlpha

def isSchemePart (c : Char) : Bool := c.isAlphanum || c == '+' || c == '-' || c == '.'

/-- The scheme in front of a colon, if there is one, and what follows the colon. -/
def cutScheme (s : Text) : Option Text × Text :=
  match cutAt ':' s with
  | (scheme, some rest) =>
    if scheme.head?.any isSchemeStart && scheme.all isSchemePart then (some scheme, rest)
    else (none, s)
  | _ => (none, s)

/-- Whether a text begins with a scheme; one with a point in it does not count here. -/
def beginsWithScheme (s : Text) : Bool := (cutScheme s).1.any fun scheme => !scheme.contains '.'

/-- The text, with two slashes in front of it unless it begins with a scheme or a slash. -/
def withSlashes (s : Text) : Text :=
  if beginsWithScheme s || s.head? = some '/' then s else '/' :: '/' :: s

/-- What stands behind two slashes up to a character of a class, and the rest. -/
def cutAuthority (stops : Text) : Text → Option Text × Text
  | '/' :: '/' :: rest =>
    (some (rest.takeWhile fun c => !stops.contains c), rest.dropWhile fun c => !stops.contains c)
  | s => (none, s)

/-- What stands in front of the last `@`, if there is one, and what stands behind it. -/
def cutUser (authority : Text) : Option Text × Text :=
  let behind := (authority.reverse.takeWhile (· ≠ '@')).reverse
  if authority.contains '@' then
    (some (authority.take (authority.length - behind.length - 1)), behind)
  else (none, authority)

/-! ## Hosts and ports -/

def isHex (c : Char) : Bool := (hexDigit? c).isSome

/-- The longest beginning that may be a name, and the rest. -/
def cutName : Text → Text × Text
  | '%' :: a :: b :: rest =>
    if isHex a && isHex b then
      let (name, rest) := cutName rest
      ('%' :: a :: b :: name, rest)
    else ([], '%' :: a :: b :: rest)
  | c :: rest =>
    if "[]%:/?#".toList.contains c then ([], c :: rest)
    else
      let (name, rest) := cutName rest
      (c :: name, rest)
  | [] => ([], [])

def isGroup (s : Text) : Bool := !s.isEmpty && s.length ≤ 4 && s.all isHex

/-- Four numbers of one to three digits with points between them. -/
def isQuad (s : Text) : Bool :=
  let numbers := splitOn '.' s
  numbers.length = 4 && numbers.all fun n => !n.isEmpty && n.length ≤ 3 && n.all Char.isDigit

/-- How many groups a text is, the last one possibly a quad, which counts twice. -/
def groupCount? (s : Text) : Option Nat :=
  if s.isEmpty then some 0
  else
    let groups := splitOn ':' s
    let last := groups.getLastD []
    if !groups.dropLast.all isGroup then none
    else if isGroup last then some groups.length
    else if isQuad last then some (groups.length + 1)
    else none

/-- The text before the first double colon, and the text after it if there is one. -/
def cutAtDoubleColon : Text → Text × Option Text
  | ':' :: ':' :: rest => ([], some rest)
  | c :: rest => (c :: (cutAtDoubleColon rest).1, (cutAtDoubleColon rest).2)
  | [] => ([], none)

/-- Eight groups, or at most seven around a double colon, with a quad only at the very end. -/
def isAddress (s : Text) : Bool :=
  match cutAtDoubleColon s with
  | (s, none) => groupCount? s = some 8
  | (left, some right) =>
    match groupCount? left, groupCount? right with
    | some m, some n => m + n ≤ 7 && !left.contains '.'
    | _, _ => false

def isUnreserved (c : Char) : Bool := c.isAlphanum || "._-~".toList.contains c

/-- Unreserved characters and bytes in hexadecimal, at least one of them. -/
def isZone (s : Text) : Bool :=
  let (name, rest) := cutName s
  !name.isEmpty && rest.isEmpty && name.all fun c => isUnreserved c || c == '%'

/-- The zone of an address after its percent sign, which may be written in hexadecimal itself. -/
def isZonePart (s : Text) : Bool :=
  isZone s || match s with
    | '2' :: '5' :: zone => isZone zone
    | _ => false

def isBracketed (s : Text) : Bool :=
  match cutAt '%' s with
  | (address, none) => isAddress address
  | (address, some zone) => isAddress address && isZonePart zone

def cutHost? (s : Text) : Option (Text × Text) :=
  match s with
  | '[' :: rest =>
    match cutAt ']' rest with
    | (inside, some rest) =>
      if isBracketed inside then some ('[' :: inside ++ [']'], rest) else none
    | _ => none
  | s => some (cutName s)

def withoutLineFeed (s : Text) : Text := if s.getLast? = some '\n' then s.dropLast else s

/-- A port behind its colon: zeros and at most five digits. Nothing behind the colon is no port. -/
def readPort? : Text → Option (Option Nat)
  | [] => some none
  | ':' :: digits =>
    if digits.all Char.isDigit && (digits.dropWhile (· == '0')).length ≤ 5 then
      some (if digits.isEmpty then none
        else some (digitsToNat (digits.filterMap asciiDigit?)))
    else none
  | _ => none

def readHostAndPort? (s : Text) : Option (Text × Option Nat) :=
  (cutHost? s).bind fun (host, rest) =>
    (readPort? (withoutLineFeed rest)).map fun port => (host, port)

def isBadInHost (c : Char) : Bool := c.toNat ≤ 0x20 || c.toNat = 0x7F

def greatestPort : Nat := 65535

/-- Whether names are brought to their ASCII form. A text without a scheme counts as of the web. -/
def isWeb : Option Text → Bool
  | none => true
  | some scheme => scheme = "http".toList || scheme = "https".toList

def labelToAscii (label : Text) : Except Fault Text :=
  if Label.isAscii label then .ok (lower label)
  else
    match Label.toAscii? (lower label) with
    | some ascii => .ok ascii
    | none => .error (.label label)

def normalHost (scheme : Option Text) (host : Text) : Except Fault Text :=
  if !isWeb scheme || isQuad host then .ok host
  else if host.head? = some '[' then .ok (lower host)
  else ((splitOn '.' host).mapM labelToAscii).map (joinWith ['.'])

/-! ## Reading and writing -/

/-- Reads the authority of a URL, which comes as a whole for messages. -/
def readAuthority (url : Text) (scheme : Option Text) (authority : Text) : Except Fault Url := do
  let (user, hostAndPort) := cutUser authority
  let some (host, port) := readHostAndPort? hostAndPort | throw (.host hostAndPort)
  if let some c := host.find? isBadInHost then throw (.character host c)
  if port.any (greatestPort < ·) then throw (.port url)
  let host ← normalHost scheme host
  return { scheme, user := user.filter (!·.isEmpty), host := some host, port }

/-- The text in front of a mark, if the mark is there, and the text behind it. -/
def cutBehind (mark : Char) (stops rest : Text) : Option Text × Text :=
  match rest with
  | [] => (none, [])
  | c :: rest =>
    if c = mark then
      (some (rest.takeWhile fun c => !stops.contains c), rest.dropWhile fun c => !stops.contains c)
    else (none, c :: rest)

def parse (s : Text) : Except Fault Url := do
  let url := if s.isEmpty then s else withSlashes s
  let (scheme, rest) := cutScheme url
  let scheme := scheme.map lower
  let (authority, rest) := cutAuthority "\\/?#".toList rest
  let start ← match authority.filter (!·.isEmpty) with
    | none => pure { scheme }
    | some authority => readAuthority url scheme authority
  let path := rest.takeWhile fun c => c ≠ '?' && c ≠ '#'
  let (query, rest) := cutBehind '?' ['#'] (rest.drop path.length)
  let (fragment, _) := cutBehind '#' [] rest
  return { start with path, query, fragment }

/-- A part behind its mark, left out if it is missing or empty. -/
def behind (mark : Char) : Option Text → Text
  | none => []
  | some s => if s.isEmpty then [] else mark :: s

/-- The text of a URL with a host. Its path begins with a slash, and a port of zero is left out. -/
def text (url : Url) : Text :=
  let port := (url.port.filter (· ≠ 0)).elim [] fun port => ':' :: ofNat port
  let path := if url.path.head? = some '/' then url.path else '/' :: url.path
  url.scheme.elim [] (· ++ [':']) ++ ['/', '/'] ++ url.user.elim [] (· ++ ['@'])
    ++ url.host.getD [] ++ port ++ path ++ behind '?' url.query ++ behind '#' url.fragment

end Url

end HostDiscovery
