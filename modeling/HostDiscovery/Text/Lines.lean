import HostDiscovery.Text.Blank

/-!
# Lines of a text

A line ends at a line feed, a carriage return (one break together with a line
feed right after it), a vertical tab, a form feed, one of the three larger
information separators, the next-line character, or the Unicode line and
paragraph separators. A break at the very end opens no further line.

`unifyBreaks` is what reading a text file does first: both spellings with a
carriage return become a line feed, and the other breaks stay.
-/
namespace HostDiscovery.Text

def isLineBreak (c : Char) : Bool :=
  let n := c.toNat
  (10 ≤ n && n ≤ 13) || (28 ≤ n && n ≤ 30) || n == 0x85 || n == 0x2028 || n == 0x2029

def lines : Text → List Text
  | [] => []
  | '\r' :: '\n' :: rest => [] :: lines rest
  | c :: rest =>
    if isLineBreak c then [] :: lines rest
    else
      match lines rest with
      | [] => [[c]]
      | line :: more => (c :: line) :: more

/-- Every carriage return, with a line feed right after it or alone, becomes one line feed. -/
def unifyBreaks : Text → Text
  | [] => []
  | '\r' :: '\n' :: rest => '\n' :: unifyBreaks rest
  | c :: rest => (if c = '\r' then '\n' else c) :: unifyBreaks rest

/-- Every line break is blank, so a trimmed line has none at its ends. -/
theorem isBlank_of_isLineBreak {c : Char} (h : isLineBreak c = true) : isBlank c = true := by
  simp only [isLineBreak, isBlank, isSpace, isInformationSeparator, Bool.or_eq_true,
    Bool.and_eq_true, decide_eq_true_eq, beq_iff_eq] at h ⊢
  omega

end HostDiscovery.Text
