import HostDiscovery.Text.CompositionTable

/-!
# Composed texts

One letter with a mark can be spelled as one character or as two. A text is
composed if it spells every letter with as few characters as there are, and the
marks on a letter in the order of their combining classes. To compose a text,
its characters are taken apart as far as they go, marks are put in order, and
then each letter takes up its marks from the left; a mark is out of its reach
behind another one of the same class.
-/
namespace HostDiscovery.Text

/-- The class by which marks on a letter are ordered; a character of class zero is no such mark. -/
def combiningClass (c : Char) : Nat :=
  match combiningClasses.find? fun row => row.1 ≤ c.toNat && c.toNat ≤ row.2.1 with
  | some row => row.2.2
  | none => 0

/-- The two characters that a composed one is made of. -/
def compositionParts? (c : Char) : Option (Char × Char) :=
  (compositions.find? fun row => row.1 == c.toNat).map fun row =>
    (Char.ofNat row.2.1, Char.ofNat row.2.2)

def composition? (a b : Char) : Option Char :=
  (compositions.find? fun row => row.2.1 == a.toNat && row.2.2 == b.toNat).map fun row =>
    Char.ofNat row.1

/-- The most marks that one composed character holds. -/
def greatestDepth : Nat := 4

/-- A character taken apart, from its first one on; `fuel` bounds the number of its marks. -/
def takenApart : (fuel : Nat) → Char → Text
  | 0, c => [c]
  | fuel + 1, c =>
    match compositionParts? c with
    | some (first, mark) => takenApart fuel first ++ [mark]
    | none => [c]

/-- A character in front of a text, behind the marks there that have a smaller class. -/
def putInOrder (c : Char) : Text → Text
  | [] => [c]
  | d :: rest =>
    if 0 < combiningClass d && combiningClass d < combiningClass c then d :: putInOrder c rest
    else c :: d :: rest

/-- The text with all characters taken apart and all marks in order. -/
def decomposed (s : Text) : Text := (s.flatMap (takenApart greatestDepth)).foldr putInOrder []

/-- Whether a character is out of reach behind marks, the nearest of them first. -/
def isBlocked (marks : Text) (c : Char) : Bool :=
  match marks with
  | [] => false
  | mark :: _ => combiningClass c ≤ combiningClass mark

/-- A letter with the marks that it has not taken up, nearest first, and the rest of a text. -/
def composeFrom (letter : Char) (marks : Text) : Text → Text
  | [] => letter :: marks.reverse
  | c :: rest =>
    match if isBlocked marks c then none else composition? letter c with
    | some composed => composeFrom composed marks rest
    | none =>
      if combiningClass c = 0 then letter :: marks.reverse ++ composeFrom c [] rest
      else composeFrom letter (c :: marks) rest

def compose : Text → Text
  | [] => []
  | c :: rest => if combiningClass c = 0 then composeFrom c [] rest else c :: compose rest

def composed (s : Text) : Text := compose (decomposed s)

def isComposed (s : Text) : Bool := composed s == s

example : isComposed "e\u0301".toList = false := by decide +kernel

end HostDiscovery.Text
