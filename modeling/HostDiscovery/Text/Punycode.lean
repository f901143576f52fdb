import HostDiscovery.Text.Blank

/-!
# Text in ASCII letters and digits

A text beyond ASCII can be written with letters, digits and hyphens alone. Its
ASCII characters come first. Behind the last hyphen each other character is a
number: how many places an insertion point passes until the character is put
in, over all code points in order. The numbers have digits of base 36 whose
thresholds follow the size of the numbers before.
-/
namespace HostDiscovery.Punycode

/-- Letters for the digits below 26, and decimal digits for the others. -/
def digit (d : Nat) : Char := if d < 26 then Char.ofNat (97 + d) else Char.ofNat (22 + d)

/-- A digit below its threshold is the last one of a number. -/
def threshold (bias place : Nat) : Nat := min (max (place - bias) 1) 26

theorem threshold_pos (bias place : Nat) : 1 ≤ threshold bias place := by
  unfold threshold; omega

/-- The digits of a number from a place on, the least significant one first. -/
def digits (bias place n : Nat) : Text :=
  if n < threshold bias place then [digit n]
  else
    let above := n - threshold bias place
    let base := 36 - threshold bias place
    digit (threshold bias place + above % base) :: digits bias (place + 36) (above / base)
  termination_by n
  decreasing_by
    have := threshold_pos bias place
    have := Nat.div_le_self (n - threshold bias place) (36 - threshold bias place)
    omega

def biasOf (n place : Nat) : Nat :=
  if 455 < n then biasOf (n / 35) (place + 36) else place + 36 * n / (n + 38)
  termination_by n
  decreasing_by omega

/-- The bias after a number, given how many characters stand by then. -/
def adapted (isFirst : Bool) (n count : Nat) : Nat :=
  let n := if isFirst then n / 700 else n / 2
  biasOf (n + n / count) 0

/-- What has been written, and the state of the insertion. -/
structure Progress where
  written : Text := []
  /-- The places passed since the last character was put in. -/
  passed : Nat := 0
  bias : Nat := 72
  /-- The characters that stand by now. -/
  count : Nat

/-- The insertion point moves past `c`, which is put in if it is the character `code`. -/
def step (basic code : Nat) (p : Progress) (c : Char) : Progress :=
  if c.toNat < code then { p with passed := p.passed + 1 }
  else if c.toNat = code then
    { written := p.written ++ digits p.bias 36 p.passed
      passed := 0
      bias := adapted (p.count == basic) p.passed (p.count + 1)
      count := p.count + 1 }
  else p

def insertAll (s : Text) (basic : Nat) : (codes : List Nat) → (next : Nat) → Progress → Progress
  | [], _, p => p
  | code :: codes, next, p =>
    let p := { p with passed := p.passed + (code - next) * (p.count + 1) }
    let p := s.foldl (step basic code) p
    insertAll s basic codes (code + 1) { p with passed := p.passed + 1 }

def codesBeyond (s : Text) : List Nat :=
  (((s.map Char.toNat).filter (128 ≤ ·)).mergeSort fun a b => a ≤ b).eraseDups

def encode (s : Text) : Text :=
  let basic := s.filter fun c => c.toNat < 128
  basic ++ (if basic.isEmpty then [] else ['-'])
    ++ (insertAll s basic.length (codesBeyond s) 128 { count := basic.length }).written

example : encode "bücher".toList = "bcher-kva".toList := by decide +kernel

end HostDiscovery.Punycode
