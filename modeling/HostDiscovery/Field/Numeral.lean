import HostDiscovery.Number.Decimal

/-!
# Numerals of untyped fields

The texts that a field takes for a number, in ASCII digits. Such a text is
cleaned before it is read, and the rules for that are not those of a numeral by
itself: a plus sign and the zeros in front of an integer go first, together
with the underscores among those zeros, and then a point with nothing but zeros
behind it. An underscore is dropped wherever it stands, as long as none begins
or ends the text and no two stand together.
-/
namespace HostDiscovery.Field

open Text

def hasDoubledUnderscore : Text → Bool
  | '_' :: '_' :: _ => true
  | [] => false
  | _ :: rest => hasDoubledUnderscore rest

def joined? (s : Text) : Option Text :=
  if s.head? = some '_' || s.getLast? = some '_' || hasDoubledUnderscore s then none
  else some (s.filter (· ≠ '_'))

def joined (s : Text) : Text := (joined? s).getD s

def isNonzeroDigit (c : Char) : Bool := c ≠ '0' && (asciiDigit? c).isSome

/-- What is left of an integer that begins with `first`, a zero or an underscore behind one. The
last of the zeros stays where nothing, or only a point, follows it. -/
def afterZeros? (first : Char) : Text → Option Text
  | [] => some [first]
  | c :: rest =>
    if c = '0' || c = '_' then afterZeros? c rest
    else if c = '-' || isNonzeroDigit c then some (c :: rest)
    else if c = '.' then some (first :: c :: rest)
    else none

def withoutZeros? : Text → Option Text
  | [] => none
  | c :: rest =>
    if c = '0' then afterZeros? c rest
    else if c = '-' || isNonzeroDigit c then some (c :: rest)
    else none

/-- What stands before a point, if only zeros, at least one, stand after it. -/
def withoutZeroFraction (s : Text) : Text :=
  let whole := s.takeWhile (· ≠ '.')
  match s.dropWhile (· ≠ '.') with
  | '.' :: '0' :: zeros => if zeros.all (· = '0') then whole else s
  | _ => s

def withoutPlus : Text → Text
  | '+' :: rest => rest
  | s => s

/-- An integer ready to be read: an optional minus sign and digits, if it is one. -/
def cleanInteger? (s : Text) : Option Text :=
  (withoutZeros? (withoutPlus (trimSpaces s))).map fun s => joined (withoutZeroFraction s)

inductive NumeralFault
  | unreadable
  | oversized
  deriving DecidableEq, Repr

/-- The integer of digits in front of what is left of a text. Its digits are counted before anything
behind them is looked at. -/
def integerOfDigits (negative : Bool) (digits rest : Text) : Except NumeralFault Int :=
  match digits, rest with
  | [], _ => .error .unreadable
  | '0' :: _ :: _, _ => .error .unreadable
  | digits, rest =>
    if Integer.digitLimit < digits.length then .error .oversized
    else if rest.isEmpty then
      .ok (Integer.signed negative (digitsToNat (digits.filterMap asciiDigit?)))
    else .error .unreadable

def integerOfClean : Text → Except NumeralFault Int
  | '-' :: s => integerOfDigits true (s.takeWhile Char.isDigit) (s.dropWhile Char.isDigit)
  | s => integerOfDigits false (s.takeWhile Char.isDigit) (s.dropWhile Char.isDigit)

def integerOfText (s : Text) : Except NumeralFault Int :=
  match cleanInteger? s with
  | some s => integerOfClean s
  | none => .error .unreadable

def plainNumber? (s : Text) : Option Float :=
  if s.contains '_' then none else Decimal.ofText? asciiDigit? s

/-- The number that a text stands for. Spaces around it are dropped, or its underscores, but not
both. -/
def numberOfText? (s : Text) : Option Float :=
  match plainNumber? (trimSpaces s) with
  | some x => some x
  | none => (joined? s).bind plainNumber?

example : cleanInteger? "+0__8_0.0".toList = some "80".toList := by decide +kernel

example : cleanInteger? "-05".toList = some "-05".toList := by decide +kernel

end HostDiscovery.Field
