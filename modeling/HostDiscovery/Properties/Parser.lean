import HostDiscovery.Properties.Basic
import HostDiscovery.Text.Lines
import HostDiscovery.Text.Utf8

/-!
# Reading properties

One entry per line: a key, a separator and a value. The separator is an equals
sign or a colon with the blanks around it, or blanks alone. Lines are trimmed;
blank lines and lines that start with a comment mark are skipped. A line that
ends in an odd number of backslashes goes on in the next line, comment marks
and blank lines included. Nothing else is special about backslashes.
-/
namespace HostDiscovery.Properties

open Text

def isSeparator (c : Char) : Bool := c == '=' || c == ':'

def endsKey (c : Char) : Bool := isBlank c || isSeparator c

/-- What follows one separator. -/
def afterSeparator (s : Text) : Text :=
  match trimStart s with
  | [] => []
  | c :: rest => if isSeparator c then trimStart rest else c :: rest

/-- Key and value of a line; a line without separator is a key with an empty value. -/
def splitEntry (line : Text) : Text × Text :=
  (line.takeWhile fun c => !endsKey c, afterSeparator (line.dropWhile fun c => !endsKey c))

def isContinued (line : Text) : Bool :=
  (line.reverse.takeWhile (· == '\\')).length % 2 == 1

/-- Whether a trimmed line is blank or a comment. -/
def isSkipped : Text → Bool
  | [] => true
  | c :: _ => c == '#' || c == '!'

/-- The entries of lines, after the text of earlier lines that were continued. -/
def entriesAfter (pending : Text) : List Text → List (Text × Text)
  | [] => if pending.isEmpty then [] else [splitEntry pending]
  | raw :: rest =>
    let line := trim raw
    if pending.isEmpty && isSkipped line then entriesAfter pending rest
    else if isContinued line then entriesAfter (pending ++ line.dropLast) rest
    else splitEntry (pending ++ line) :: entriesAfter [] rest

def parse (s : Text) : Properties := ofEntries (entriesAfter [] (lines s))

/-- The map in the bytes of a file, whose line breaks are unified first. -/
def ofBytes (bytes : List UInt8) : Except Utf8.Refusal Properties :=
  (Utf8.decode bytes).map fun s => parse (unifyBreaks s)

end HostDiscovery.Properties
