import HostDiscovery.Text.Digits
import HostDiscovery.Text.Printable

/-!
# Quoted texts

How messages show a text that came from outside. The quotes are single, unless
the text has a single quote and no double one. The quote in use and the
backslash are escaped, three control characters have a letter, and an
unprintable character is written by its code point in hexadecimal; in the ASCII
form so is every character beyond ASCII.
-/
namespace HostDiscovery.Text

def hexDigits : (width : Nat) → Nat → Text
  | 0, _ => []
  | width + 1, n => hexDigits width (n / 16) ++ [hexDigit (n % 16)]

def quoteMark (s : Text) : Char :=
  if s.contains '\'' && !s.contains '"' then '"' else '\''

def codePointEscape (c : Char) : Text :=
  if c.toNat < 0x100 then '\\' :: 'x' :: hexDigits 2 c.toNat
  else if c.toNat < 0x10000 then '\\' :: 'u' :: hexDigits 4 c.toNat
  else '\\' :: 'U' :: hexDigits 8 c.toNat

def escape (mark c : Char) : Text :=
  if c = mark || c = '\\' then ['\\', c]
  else if c = '\n' then ['\\', 'n']
  else if c = '\r' then ['\\', 'r']
  else if c = '\t' then ['\\', 't']
  else if isPrintable c then [c]
  else codePointEscape c

def quoted (s : Text) : Text :=
  quoteMark s :: s.flatMap (escape (quoteMark s)) ++ [quoteMark s]

/-- The quoted form in ASCII only. -/
def asciiQuoted (s : Text) : Text :=
  (quoted s).flatMap fun c => if c.toNat < 0x80 then [c] else codePointEscape c

def quote (s : String) : String := String.ofList (quoted s.toList)

end HostDiscovery.Text
