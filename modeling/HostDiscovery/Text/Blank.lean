/-!
# White space

Texts are lists of characters, so that every rule about them is a recursion on
a list. A character is a Unicode scalar value: half of a surrogate pair on its
own is in no text, and so every text has bytes. A space is a character that
Unicode gives the white-space property; zero-width characters and the byte
order mark are none. A blank is a space or one of the four information
separators. Trimming removes blanks or spaces at the ends only: texts lose
their blanks, and numerals only their spaces.
-/
namespace HostDiscovery

/-- A text as the list of its characters. -/
abbrev Text := List Char

namespace Text

def isSpace (c : Char) : Bool :=
  let n := c.toNat
  (9 ≤ n && n ≤ 13) || n == 32 || n == 0x85 || n == 0xA0 || n == 0x1680
    || (0x2000 ≤ n && n ≤ 0x200A) || n == 0x2028 || n == 0x2029 || n == 0x202F
    || n == 0x205F || n == 0x3000

/-- The separators of files, groups, records and units. -/
def isInformationSeparator (c : Char) : Bool := 28 ≤ c.toNat && c.toNat ≤ 31

def isBlank (c : Char) : Bool := isSpace c || isInformationSeparator c

def trimStart (s : Text) : Text := s.dropWhile isBlank

def trimEnd (s : Text) : Text := (s.reverse.dropWhile isBlank).reverse

def trim (s : Text) : Text := trimEnd (trimStart s)

def trimSpaces (s : Text) : Text := ((s.dropWhile isSpace).reverse.dropWhile isSpace).reverse

theorem trimStart_nil : trimStart [] = [] := rfl

theorem trim_nil : trim [] = [] := rfl

/-- A text that starts with no blank is left alone at its start. -/
theorem trimStart_cons_of_not_blank {c : Char} {s : Text} (h : isBlank c = false) :
    trimStart (c :: s) = c :: s := by
  simp [trimStart, h]

end Text

end HostDiscovery
