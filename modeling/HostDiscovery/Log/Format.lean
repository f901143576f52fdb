import HostDiscovery.Log.Record
import HostDiscovery.Number.Notation
import HostDiscovery.Text.Quoted
import HostDiscovery.Text.Split
import HostDiscovery.Text.Word

/-!
# Formats of log records

A format is a text with fields such as `%(levelname)-8s`: a name in brackets,
flags, a width, a precision and a conversion. A format is valid if some field
in it is well formed. Showing a record fails where a field is not known or does
not fit its conversion.
-/
namespace HostDiscovery

structure Stamp where
  time : String
  file : String
  line : Nat
  /-- The lines about a failure that follow a record with details. -/
  details : String
  deriving Repr

namespace LogFormat

open Text

def isFlag (c : Char) : Bool := c ∈ ['#', '0', '+', ' ', '-']

def conversions : Text := "diouxefgcrsa%".toList

/-- The lower case of a conversion. Beyond ASCII, three letters are another case of an ASCII one. -/
def plainConversion (c : Char) : Char :=
  if c = 'ı' ∨ c = 'İ' then 'i' else if c = 'ſ' then 's' else c.toLower

def startsCount (s : Text) : Bool :=
  match s with
  | [] => false
  | c :: _ => c == '*' || (digitValue? c).isSome

def skipCount : Text → Text
  | '*' :: rest => rest
  | s => s.dropWhile fun c => (digitValue? c).isSome

def skipPrecision : Text → Text
  | '.' :: rest => if startsCount rest then skipCount rest else '.' :: rest
  | s => s

def endsField (s : Text) : Bool :=
  match skipPrecision (skipCount (s.dropWhile isFlag)) with
  | [] => false
  | c :: _ => conversions.contains (plainConversion c)

def startsField : Text → Bool
  | '%' :: '(' :: rest =>
    match rest.takeWhile isWord, rest.dropWhile isWord with
    | _ :: _, ')' :: rest => endsField rest
    | _, _ => false
  | _ => false

def hasField : Text → Bool
  | [] => false
  | c :: rest => startsField (c :: rest) || hasField rest

/-- What stands between the percent sign of a field and its conversion. -/
structure Field where
  name : Option Text
  flags : Text
  width : Nat
  precision : Option Nat
  conversion : Char
  deriving DecidableEq, Repr

/-- A text up to the bracket that closes it, and the rest after that bracket. -/
def closing (depth : Nat) : Text → Option (Text × Text)
  | [] => none
  | c :: rest =>
    match c, depth with
    | ')', 0 => some ([], rest)
    | ')', depth + 1 => (closing depth rest).map fun (name, rest) => (c :: name, rest)
    | '(', depth => (closing (depth + 1) rest).map fun (name, rest) => (c :: name, rest)
    | _, depth => (closing depth rest).map fun (name, rest) => (c :: name, rest)

def count (s : Text) : Nat := digitsToNat (s.filterMap asciiDigit?)

def isDigit (c : Char) : Bool := (asciiDigit? c).isSome

def fieldOf? (name : Option Text) (s : Text) : Option (Field × Text) :=
  let flags := s.takeWhile isFlag
  let s := s.dropWhile isFlag
  let width := count (s.takeWhile isDigit)
  let s := s.dropWhile isDigit
  let (precision, s) := match s with
    | '.' :: rest => (some (count (rest.takeWhile isDigit)), rest.dropWhile isDigit)
    | s => (none, s)
  let s := match s with
    | 'h' :: rest | 'l' :: rest | 'L' :: rest => rest
    | s => s
  match s with
  | [] => none
  | conversion :: rest => some ({ name, flags, width, precision, conversion }, rest)

def field? : Text → Option (Field × Text)
  | '(' :: rest => (closing 0 rest).bind fun (name, rest) => fieldOf? (some name) rest
  | s => fieldOf? none s

/-- A text in the width of a field, at its right end unless the field says otherwise. -/
def pad (field : Field) (s : Text) : Text :=
  let fill := List.replicate (field.width - s.length) ' '
  if field.flags.contains '-' then s ++ fill else fill ++ s

def showText (field : Field) (s : Text) : Text :=
  pad field (match field.precision with
    | some n => s.take n
    | none => s)

def signOf (field : Field) : Text :=
  if field.flags.contains '+' then ['+'] else if field.flags.contains ' ' then [' '] else []

/-- Digits that a precision or the flag for zeros fills up; `mark` names their base. -/
def showDigits (field : Field) (mark digits : Text) : Text :=
  let digits := List.replicate (field.precision.getD 0 - digits.length) '0' ++ digits
  let start := signOf field ++ (if field.flags.contains '#' then mark else [])
  if field.flags.contains '0' && !field.flags.contains '-' then
    start ++ List.replicate (field.width - start.length - digits.length) '0' ++ digits
  else pad field (start ++ digits)

def showNotation (field : Field) (written : (point : Bool) → (places : Nat) → Text) : Text :=
  let digits := written (field.flags.contains '#') (field.precision.getD 6)
  showDigits { field with precision := none } [] digits

def showNumber? (field : Field) (n : Nat) : Option Text :=
  match field.conversion with
  | 's' | 'r' | 'a' => some (showText field (ofNat n))
  | 'd' | 'i' | 'u' => some (showDigits field [] (ofNat n))
  | 'x' => some (showDigits field ['0', 'x'] (Nat.toDigits 16 n))
  | 'X' => some (showDigits field ['0', 'X'] ((Nat.toDigits 16 n).map Char.toUpper))
  | 'o' => some (showDigits field ['0', 'o'] (Nat.toDigits 8 n))
  | 'f' | 'F' => some (showNotation field fun point places => Notation.fixed point places n)
  | 'e' | 'E' =>
    some (showNotation field fun point places =>
      Notation.scientific point field.conversion places n)
  | 'g' =>
    some (showNotation field fun point places => Notation.general point 'e' places n)
  | 'G' =>
    some (showNotation field fun point places => Notation.general point 'E' places n)
  | 'c' => some (pad field [Char.ofNat n])
  | _ => none

def showText? (field : Field) (s : Text) : Option Text :=
  match field.conversion, s with
  | 's', s => some (showText field s)
  | 'r', s => some (showText field (quoted s))
  | 'a', s => some (showText field (asciiQuoted s))
  | 'c', [c] => some (pad field [c])
  | _, _ => none

def showName? (field : Field) (s : String) : Option Text :=
  match field.conversion with
  | 's' | 'r' | 'a' => some (showText field s.toList)
  | _ => none

inductive Content
  | text (s : String)
  | number (n : Nat)
  | named (s : String)
  deriving DecidableEq, Repr

/-- The content of a field; a record that is shown has no failure, stack or arguments of its own. -/
def content? (stamp : Stamp) (record : LogRecord) (name : String) : Option Content :=
  match name with
  | "name" => some (.text record.logger)
  | "levelname" => some (.text record.level.name)
  | "levelno" => some (.number record.level.number)
  | "message" | "msg" => some (.text record.message)
  | "asctime" => some (.text stamp.time)
  | "filename" => some (.text stamp.file)
  | "lineno" => some (.number stamp.line)
  | "threadName" => some (.text "MainThread")
  | "processName" => some (.text "MainProcess")
  | "exc_info" | "exc_text" | "stack_info" => some (.named "None")
  | "args" => some (.named "()")
  | _ => none

def Content.show? (field : Field) : Content → Option Text
  | text s => showText? field s.toList
  | number n => showNumber? field n
  | named s => showName? field s

def showField? (stamp : Stamp) (record : LogRecord) (field : Field) : Option Text :=
  field.name.bind fun name => (content? stamp record (String.ofList name)).bind (·.show? field)

/-- A record in a format, if all its fields can be shown. Two percent signs show one. -/
def render? (stamp : Stamp) (record : LogRecord) (format : Text) : Option Text :=
  match format with
  | [] => some []
  | '%' :: '%' :: rest => (render? stamp record rest).map ('%' :: ·)
  | '%' :: rest =>
    match field? rest with
    | none => none
    | some (field, after) =>
      if after.length < rest.length then
        match showField? stamp record field, render? stamp record after with
        | some shown, some more => some (shown ++ more)
        | _, _ => none
      else none
  | c :: rest => (render? stamp record rest).map (c :: ·)
  termination_by format.length

def bare : Text := "%(message)s".toList

end LogFormat

structure LogFormat where
  text : Text
  valid : LogFormat.hasField text = true

namespace LogFormat

/-- The format of a text; the empty text stands for the message alone. -/
def ofText? (s : Text) : Option LogFormat :=
  let s := if s.isEmpty then bare else s
  if h : hasField s = true then some ⟨s, h⟩ else none

def standard (timestamps location : Bool) : Text :=
  Text.joinWith [' '] <|
    (if timestamps then ["%(asctime)s".toList] else [])
      ++ ["%(levelname)s".toList, "[%(name)s]".toList]
      ++ (if location then ["[%(filename)s:%(lineno)d]".toList] else [])
      ++ [bare]

theorem hasField_standard (timestamps location : Bool) :
    hasField (standard timestamps location) = true := by
  cases timestamps <;> cases location <;> decide +kernel

end LogFormat

end HostDiscovery
