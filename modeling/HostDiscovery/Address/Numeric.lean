import HostDiscovery.Text.Digits
import HostDiscovery.Text.Split

/-!
# Numeric addresses

IPv4 and IPv6 addresses as numbers, with the texts that are read and the one
text that is written for each.

An IPv4 text has four octets without leading zeros. An IPv6 text has eight
groups of one to four hexadecimal digits; one double colon may stand for one or
more zero groups, and the last two groups may be written as an IPv4 address.
What is written is lower case without leading zeros, with a double colon for
the longest run of two or more zero groups, the first of equally long ones.
-/
namespace HostDiscovery

inductive NumericAddress
  | v4 (value : BitVec 32)
  | v6 (value : BitVec 128)
  deriving DecidableEq, Repr

namespace NumericAddress

open Text

/-- The number whose digits in some base are given, most significant first. -/
def ofDigits (base : Nat) (digits : List Nat) : Nat := digits.foldl (fun n d => base * n + d) 0

/-- One to three ASCII digits, no leading zero unless alone, at most 255. -/
def octet? (s : Text) : Option Nat :=
  match s.mapM asciiDigit? with
  | none => none
  | some ds =>
    if ds.isEmpty || 3 < ds.length then none
    else if 1 < ds.length && ds.head? == some 0 then none
    else if ofDigits 10 ds ≤ 255 then some (ofDigits 10 ds) else none

def octets? (s : Text) : Option (List Nat) :=
  match (splitOn '.' s).mapM octet? with
  | some os => if os.length = 4 then some os else none
  | none => none

def group? (s : Text) : Option Nat :=
  match s.mapM hexDigit? with
  | none => none
  | some ds => if ds.isEmpty || 4 < ds.length then none else some (ofDigits 16 ds)

def pieces (s : Text) : List Text := if s.isEmpty then [] else splitOn ':' s

def groups? (pieces : List Text) : Option (List Nat) := pieces.mapM group?

/-- Groups of which the last piece may be an IPv4 text, which counts as two. -/
def groupsWithQuad? : List Text → Option (List Nat)
  | [] => some []
  | [piece] =>
    if piece.contains '.' then
      (octets? piece).map fun os => [ofDigits 256 (os.take 2), ofDigits 256 (os.drop 2)]
    else (group? piece).map ([·])
  | piece :: next :: more =>
    match group? piece, groupsWithQuad? (next :: more) with
    | some g, some gs => some (g :: gs)
    | _, _ => none

/-- The texts before and after the first double colon, if there is one. -/
def cutAtGap : Text → Option (Text × Text)
  | [] => none
  | ':' :: ':' :: rest => some ([], rest)
  | c :: rest => (cutAtGap rest).map fun sides => (c :: sides.1, sides.2)

def eightGroups? (s : Text) : Option (List Nat) :=
  match cutAtGap s with
  | none =>
    match groupsWithQuad? (pieces s) with
    | some gs => if gs.length = 8 then some gs else none
    | none => none
  | some (left, right) =>
    match groups? (pieces left), groupsWithQuad? (pieces right) with
    | some ls, some rs =>
      if ls.length + rs.length ≤ 7 then
        some (ls ++ List.replicate (8 - ls.length - rs.length) 0 ++ rs)
      else none
    | _, _ => none

def parse? (s : Text) : Option NumericAddress :=
  match octets? s with
  | some os => some (.v4 (BitVec.ofNat 32 (ofDigits 256 os)))
  | none => (eightGroups? s).map fun gs => .v6 (BitVec.ofNat 128 (ofDigits 65536 gs))

/-- As `parse?`, but an IPv6 text may end in a percent sign and a zone without a further one. -/
def parseZoned? (s : Text) : Option NumericAddress :=
  if s.contains '/' then none
  else
    match cutAt '%' s with
    | (_, none) => parse? s
    | (body, some zone) =>
      if zone.isEmpty || zone.contains '%' then none
      else (eightGroups? body).map fun gs => .v6 (BitVec.ofNat 128 (ofDigits 65536 gs))

def toDigits (base : Nat) : (count : Nat) → Nat → List Nat
  | 0, _ => []
  | count + 1, n => toDigits base count (n / base) ++ [n % base]

def dropLeadingZeros : List Nat → List Nat
  | 0 :: d :: rest => dropLeadingZeros (d :: rest)
  | ds => ds

def octetText (n : Nat) : Text := (dropLeadingZeros (toDigits 10 3 n)).map hexDigit

def groupText (n : Nat) : Text := (dropLeadingZeros (toDigits 16 4 n)).map hexDigit

def zerosAhead (groups : List Nat) : Nat := (groups.takeWhile (· == 0)).length

/-- Start and length of the longest run of zeros, the first of equally long ones. -/
def longestZeros : List Nat → Nat × Nat
  | [] => (0, 0)
  | g :: rest =>
    let (start, length) := longestZeros rest
    if length ≤ zerosAhead (g :: rest) then (0, zerosAhead (g :: rest)) else (start + 1, length)

def joinGroups (groups : List Nat) : Text := joinWith [':'] (groups.map groupText)

def groupsText (groups : List Nat) : Text :=
  let (start, length) := longestZeros groups
  if length < 2 then joinGroups groups
  else joinGroups (groups.take start) ++ [':', ':'] ++ joinGroups (groups.drop (start + length))

def octets (value : BitVec 32) : List Nat := toDigits 256 4 value.toNat

def groups (value : BitVec 128) : List Nat := toDigits 65536 8 value.toNat

def toText : NumericAddress → Text
  | .v4 value => joinWith ['.'] ((octets value).map octetText)
  | .v6 value => groupsText (groups value)

/-- The whole block 127.0.0.0/8, and the IPv6 address one. -/
def isLoopback : NumericAddress → Bool
  | .v4 value => (octets value).head? == some 127
  | .v6 value => value == 1

end NumericAddress

end HostDiscovery
