import HostDiscovery.Text.Case
import HostDiscovery.Text.Composition
import HostDiscovery.Text.Digits
import HostDiscovery.Text.Punycode
import HostDiscovery.Text.Split
import HostDiscovery.Url.LabelTable

/-!
# Labels of host names

A host name consists of labels with a point between each two. A label beyond
ASCII is known to the name service by its ASCII form, and only a valid label
has one: it is composed, it has allowed characters only, some of them only in
certain surroundings, it begins with no mark, hyphens do not stand at its ends
or in its third and fourth place, and text that is written from right to left
is not mixed with other text.
-/
namespace HostDiscovery.Label

open Text

def isMark (c : Char) : Bool := inIntervals markIntervals c.toNat

def isNonspacing (c : Char) : Bool := inIntervals nonspacingIntervals c.toNat

/-! ## Surroundings -/

/-- Marks that are not nonspacing, or are, against what the class of joining marks says. -/
def joiningExceptions : List Nat := [0xCBF, 0xCC6, 0x11A07, 0x11A08, 0x11C3F, 0x1171E, 0x1E94B]

/-- Marks that letters join across. -/
def isTransparent (c : Char) : Bool :=
  isNonspacing c != joiningExceptions.contains c.toNat

def viramaClass : Nat := 9

def followsVirama (before : Text) : Bool :=
  before.head?.any fun c => combiningClass c = viramaClass

/-- Whether the first character that letters do not join across lies in some intervals. -/
def meets (intervals : List (Nat × Nat)) (s : Text) : Bool :=
  (s.dropWhile isTransparent).head?.any fun c => inIntervals intervals c.toNat

/-- Whether an invisible joiner may stand here: it parts letters that would join, or follows a
mark that cancels a vowel. -/
def allowsNonJoiner (before after : Text) : Bool :=
  followsVirama before
    || (meets joiningNextIntervals before && meets joiningPreviousIntervals after)

def isArabicDigit (c : Char) : Bool := 0x660 ≤ c.toNat && c.toNat ≤ 0x669

def isPersianDigit (c : Char) : Bool := 0x6F0 ≤ c.toNat && c.toNat ≤ 0x6F9

/-- Whether a character may stand in a label between what is before it, nearest first, and what is
after it. -/
def isAllowedAt (label before : Text) (c : Char) (after : Text) : Bool :=
  let n := c.toNat
  if isArabicDigit c then !label.any isPersianDigit
  else if isPersianDigit c then !label.any isArabicDigit
  else if inIntervals allowedIntervals n then true
  else if n = 0x200C then allowsNonJoiner before after
  else if n = 0x200D then followsVirama before
  else if n = 0xB7 then before.head? = some 'l' && after.head? = some 'l'
  else if n = 0x375 then after.head?.any fun c => inIntervals greekIntervals c.toNat
  else if n = 0x5F3 || n = 0x5F4 then
    before.head?.any fun c => inIntervals hebrewIntervals c.toNat
  else if n = 0x30FB then label.any fun c => inIntervals eastAsianIntervals c.toNat
  else false

def allAllowed (label before : Text) : Text → Bool
  | [] => true
  | c :: after => isAllowedAt label before c after && allAllowed label (c :: before) after

/-! ## Directions -/

inductive Direction
  | leftToRight
  | rightToLeft
  | arabicNumber
  | europeanNumber
  | neutral
  | nonspacing
  deriving DecidableEq, Repr

def direction (c : Char) : Direction :=
  if isArabicDigit c || (0x10D30 ≤ c.toNat && c.toNat ≤ 0x10D39) then .arabicNumber
  else if isPersianDigit c || (asciiDigit? c).isSome then .europeanNumber
  else if inIntervals rightToLeftIntervals c.toNat then .rightToLeft
  else if inIntervals nonspacingIntervals c.toNat then .nonspacing
  else if inIntervals neutralIntervals c.toNat then .neutral
  else .leftToRight

/-- A label with letters or numbers from right to left begins with such a letter, ends with a letter
or number up to marks, has no letters from left to right, and numbers of one kind only. -/
def isDirectional (directions : List Direction) : Bool :=
  let last := (directions.reverse.dropWhile (· == .nonspacing)).head?
  !directions.any (fun d => d = .rightToLeft || d = .arabicNumber)
    || (directions.head? = some .rightToLeft
      && last.any (fun d => d = .rightToLeft || d = .arabicNumber || d = .europeanNumber)
      && !directions.contains .leftToRight
      && !(directions.contains .arabicNumber && directions.contains .europeanNumber))

/-! ## Validity and the ASCII form -/

/-- Hyphens neither at the ends nor in the third and fourth place. -/
def hasFineHyphens (label : Text) : Bool :=
  label.head? ≠ some '-' && label.getLast? ≠ some '-' && (label.drop 2).take 2 ≠ ['-', '-']

def isValid (label : Text) : Bool :=
  !label.isEmpty && isComposed label && hasFineHyphens label && !label.head?.any isMark
    && allAllowed label [] label && isDirectional (label.map direction)

def isAscii (s : Text) : Bool := s.all fun c => c.toNat < 128

def greatestLength : Nat := 63

/-- What the ASCII form of a label beyond ASCII begins with. -/
def asciiMark : Text := "xn--".toList

def toAscii? (label : Text) : Option Text :=
  let ascii := if isAscii label then label else asciiMark ++ Punycode.encode label
  if isValid label && ascii.length ≤ greatestLength then some ascii else none

/-- The points that end a label in any script. -/
def isPoint (c : Char) : Bool := [0x2E, 0x3002, 0xFF0E, 0xFF61].contains c.toNat

def ignoredIntervals : List (Nat × Nat) := [
  (0xAD, 0xAD), (0x34F, 0x34F), (0x115F, 0x1160), (0x17B4, 0x17B5), (0x180B, 0x180F),
  (0x200B, 0x200B), (0x2060, 0x2064), (0x206A, 0x206F), (0x3164, 0x3164), (0xFE00, 0xFE0F),
  (0xFEFF, 0xFEFF), (0xFFA0, 0xFFA0), (0x1BCA0, 0x1BCA3), (0x1D173, 0x1D17A),
  (0xE0100, 0xE01EF)]

/-- A wide form of an ASCII character as that character. -/
def narrow (c : Char) : Char :=
  if 0xFF01 ≤ c.toNat && c.toNat ≤ 0xFF5E then Char.ofNat (c.toNat - 0xFEE0) else c

/-- A host name as it is looked up: lower case, composed, every point a full stop. -/
def folded (name : Text) : Text :=
  let name := name.filter fun c => !inIntervals ignoredIntervals c.toNat
  (composed (lower (name.map narrow))).map fun c => if isPoint c then '.' else c

def greatestNameLength : Nat := 253

/-- The ASCII form of a host name, which may end in a point. -/
def nameToAscii? (name : Text) : Option Text := do
  let labels := splitOn '.' (folded name)
  let rooted := labels.getLast? = some []
  let ascii ← (if rooted then labels.dropLast else labels).mapM toAscii?
  let name := joinWith ['.'] ascii
  if !ascii.isEmpty && name.length ≤ greatestNameLength then
    some (if rooted then name ++ ['.'] else name)
  else none

end HostDiscovery.Label
