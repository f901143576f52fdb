import HostDiscovery.Calendar.Time
import HostDiscovery.Text.Case
import HostDiscovery.Text.Digits

/-!
# Formats of calendar times

A format is a text with directives: a percent sign, flags, a width, a modifier
and a letter. Flags choose the padding and the letter case, the width counts
characters, and the modifiers `E` and `O` change nothing where they are allowed.
A directive that is not known is shown as it stands. Two rules hold for a whole
format: it ends at a NUL character, and a result that outgrows the room for it
is lost.
-/
namespace HostDiscovery.CalendarTime

open Text

inductive Padding
  | zeros
  | spaces
  | bare
  deriving DecidableEq, Repr

/-- What stands between the percent sign and the letter. -/
structure Directive where
  /-- The characters read so far, the last one first. -/
  read : Text := ['%']
  padding : Option Padding := none
  upper : Bool := false
  swapped : Bool := false
  width : Option Nat := none
  modifier : Option Char := none
  deriving DecidableEq, Repr

namespace Directive

/-- The directive with one more character, unless that is the letter that ends it. -/
def extend? (d : Directive) (c : Char) : Option Directive :=
  let d := { d with read := c :: d.read }
  if d.modifier.isSome then none
  else if c = 'E' ∨ c = 'O' then some { d with modifier := some c }
  else
    match d.width, c, asciiDigit? c with
    | none, '_', _ => some { d with padding := some .spaces }
    | none, '-', _ => some { d with padding := some .bare }
    | none, '0', _ => some { d with padding := some .zeros }
    | none, '^', _ => some { d with upper := true }
    | none, '#', _ => some { d with swapped := true }
    | width, _, some digit => some { d with width := some (10 * width.getD 0 + digit) }
    | _, _, none => none

def atLeast (d : Directive) : Nat := d.width.getD 0

def capital (c : Char) : Char :=
  match Text.upperChar c with
  | [u] => u
  | _ => c

def fill (d : Directive) (s : Text) : Text :=
  let s := if d.upper then s.map capital else s
  List.replicate (d.atLeast - s.length) (if d.padding = some .zeros then '0' else ' ') ++ s

/-- A name, which either flag for the case turns to upper case. -/
def name (d : Directive) (s : String) : Text :=
  fill { d with upper := d.upper || d.swapped } s.toList

def number (d : Directive) (digits n : Nat) : Text :=
  let s := Text.ofNat n
  let missing := max digits d.atLeast - s.length
  match d.padding with
  | some .bare => d.fill s
  | some .spaces => List.replicate missing ' ' ++ s
  | _ => List.replicate missing '0' ++ s

def spaced (d : Directive) (n : Nat) : Text :=
  number { d with padding := d.padding.getD .spaces } 2 n

/-- The letters that may not follow a modifier. -/
def unmodified : Char → Text
  | 'E' => "abdefghijklmwABDFGHIMSUVW".toList
  | 'O' => "acxADFXY".toList
  | _ => []

end Directive

def shortYear (year : Nat) : Nat := year % 100

def halfDay (t : CalendarTime) : String := if t.isMorning then "AM" else "PM"

def two (n : Nat) : Text := Directive.number {} 2 n

def clock (t : CalendarTime) : Text := two t.hour ++ ":".toList ++ two t.minute

def clockWithSeconds (t : CalendarTime) : Text := clock t ++ ":".toList ++ two t.second

def slashedDate (t : CalendarTime) : Text :=
  two t.month ++ "/".toList ++ two t.day ++ "/".toList ++ two (shortYear t.year)

def hyphenDate (t : CalendarTime) : Text :=
  Text.ofNat t.year ++ "-".toList ++ two t.month ++ "-".toList ++ two t.day

def clockOfTwelve (t : CalendarTime) : Text :=
  two t.clockHour ++ ":".toList ++ two t.minute ++ ":".toList ++ two t.second
    ++ " ".toList ++ (halfDay t).toList

def longForm (t : CalendarTime) : Text :=
  t.dayName.toList.take 3 ++ " ".toList ++ t.monthName.toList.take 3 ++ " ".toList
    ++ Directive.spaced {} t.day ++ " ".toList ++ clockWithSeconds t ++ " ".toList
    ++ Text.ofNat t.year

def shown? (t : CalendarTime) (d : Directive) (letter : Char) : Option Text :=
  match letter with
  | 'a' => some (d.name (String.ofList (t.dayName.toList.take 3)))
  | 'A' => some (d.name t.dayName)
  | 'b' | 'h' => some (d.name (String.ofList (t.monthName.toList.take 3)))
  | 'B' => some (d.name t.monthName)
  | 'c' => some (d.fill (longForm t))
  | 'C' => some (d.number 1 (t.year / 100))
  | 'd' => some (d.number 2 t.day)
  | 'D' | 'x' => some (d.fill (slashedDate t))
  | 'e' => some (d.spaced t.day)
  | 'F' => some (d.fill (hyphenDate t))
  | 'g' => some (d.number 2 (shortYear t.thursdayWeek.1))
  | 'G' => some (d.number 1 t.thursdayWeek.1)
  | 'H' => some (d.number 2 t.hour)
  | 'I' => some (d.number 2 t.clockHour)
  | 'j' => some (d.number 3 (t.yearDay + 1))
  | 'k' => some (d.spaced t.hour)
  | 'l' => some (d.spaced t.clockHour)
  | 'm' => some (d.number 2 t.month)
  | 'M' => some (d.number 2 t.minute)
  | 'n' => some (d.fill ['\n'])
  | 'p' =>
    some (if d.swapped then { d with upper := false }.fill (lower (halfDay t).toList)
      else d.fill (halfDay t).toList)
  | 'P' => some ({ d with upper := false }.fill (lower (halfDay t).toList))
  | 'r' => some (d.fill (clockOfTwelve t))
  | 'R' => some (d.fill (clock t))
  | 's' => some (d.fill (toString t.epochSeconds).toList)
  | 'S' => some (d.number 2 t.second)
  | 't' => some (d.fill ['\t'])
  | 'T' | 'X' => some (d.fill (clockWithSeconds t))
  | 'u' => some (d.number 1 (t.weekday + 1))
  | 'U' => some (d.number 2 (t.weekFrom 6))
  | 'V' => some (d.number 2 t.thursdayWeek.2)
  | 'w' => some (d.number 1 ((t.weekday + 1) % 7))
  | 'W' => some (d.number 2 (t.weekFrom 0))
  | 'y' => some (d.number 2 (shortYear t.year))
  | 'Y' => some (d.number 1 t.year)
  | 'z' => some []
  | 'Z' => some (d.fill [])
  | '%' => some (d.fill ['%'])
  | _ => none

/-- A directive with its letter; one that is not known is shown as it was read. -/
def showDirective (t : CalendarTime) (d : Directive) (letter : Char) : Text :=
  let asRead := (letter :: d.read).reverse
  if (d.modifier.map Directive.unmodified).any (·.contains letter) then
    if letter = 'b' ∨ letter = 'h' then d.name (String.ofList asRead) else d.fill asRead
  else (shown? t d letter).getD (d.fill asRead)

/-- The rest of a format, given the directive that has begun; no width counts beyond `limit`. -/
def formatFrom (t : CalendarTime) (limit : Nat) : Option Directive → Text → Text
  | none, [] => []
  | some d, [] => d.fill d.read.reverse
  | none, c :: rest =>
    if c = '%' then formatFrom t limit (some {}) rest else c :: formatFrom t limit none rest
  | some d, c :: rest =>
    match d.extend? c with
    | some d => formatFrom t limit (some { d with width := d.width.map (min · limit) }) rest
    | none => showDirective t d c ++ formatFrom t limit none rest

/-- The format with microseconds filled in; a time without a zone shows none. -/
def withoutFractions (t : CalendarTime) : Text → Text
  | '%' :: 'f' :: rest => Directive.number {} 6 t.microsecond ++ withoutFractions t rest
  | '%' :: 'z' :: rest | '%' :: 'Z' :: rest => withoutFractions t rest
  | '%' :: c :: rest => '%' :: c :: withoutFractions t rest
  | c :: rest => c :: withoutFractions t rest
  | [] => []

/-- The room for a result: a power of two, and 256 characters for each one of the format. -/
def room (format : Text) : Nat := max 1024 (256 * format.length).nextPowerOfTwo

def format (t : CalendarTime) (format : Text) : Text :=
  let format := withoutFractions t (format.takeWhile (· ≠ '\x00'))
  let text := formatFrom t (room format) none format
  if text.length < room format then text else []

end HostDiscovery.CalendarTime
