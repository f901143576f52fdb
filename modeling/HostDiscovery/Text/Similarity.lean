import HostDiscovery.Text.Order

/-!
# Similar texts

How much two texts have in common, for a hint at what a misspelt word may have
been meant to be. The longest block that both contain is taken out, and what
stands before it and behind it in both is compared in the same way; the blocks
together are the matches. Two texts are close if the matches are at least three
tenths of their total length, and `closest` gives the closest three of a list.
-/
namespace HostDiscovery.Text

/-- The length of the longest common start. -/
def commonStart : Text → Text → Nat
  | a :: s, b :: t => if a = b then commonStart s t + 1 else 0
  | _, _ => 0

/-- A block that two texts share: where it starts in each, and how long it is. -/
structure CommonBlock where
  left : Nat
  right : Nat
  size : Nat
  deriving DecidableEq, Repr

def CommonBlock.longer (a b : CommonBlock) : CommonBlock := if a.size < b.size then b else a

def blockAtHead (s : Text) (i : Nat) : (t : Text) → (j : Nat) → CommonBlock
  | [], j => ⟨i, j, 0⟩
  | b :: t, j => (CommonBlock.mk i j (commonStart s (b :: t))).longer (blockAtHead s i t (j + 1))

/-- The longest block, the first one in `s` of equals and then the first one in `t`. -/
def longestBlock (t : Text) : (s : Text) → (i : Nat) → CommonBlock
  | [], i => ⟨i, 0, 0⟩
  | a :: s, i => (blockAtHead (a :: s) i t 0).longer (longestBlock t s (i + 1))

/-- The characters in common blocks; `fuel` bounds how often a block is taken out. -/
def matchesWithin : (fuel : Nat) → Text → Text → Nat
  | 0, _, _ => 0
  | fuel + 1, s, t =>
    let block := longestBlock t s 0
    if block.size = 0 then 0
    else
      matchesWithin fuel (s.take block.left) (t.take block.right) + block.size
        + matchesWithin fuel (s.drop (block.left + block.size)) (t.drop (block.right + block.size))

/-- The number of characters in common blocks. Each block that is taken out shortens `s`. -/
def matchCount (s t : Text) : Nat := matchesWithin (s.length + 1) s t

/-- Whether the matches are at least three tenths of both lengths together. -/
def isClose (s t : Text) : Bool := 3 * (s.length + t.length) ≤ 10 * matchCount s t

/-- Whether `a` is closer to a word than `b` is; of equally close ones the later in order. -/
def isCloser (word a b : Text) : Bool :=
  let left := matchCount a word * (b.length + word.length)
  let right := matchCount b word * (a.length + word.length)
  right < left || (right = left && !precedes a b)

/-- The texts of a list that are close to a word, at most three, the closest first. -/
def closest (word : Text) (texts : List Text) : List Text :=
  ((texts.filter fun s => isClose s word).mergeSort (isCloser word)).take 3

def suggestions (word : Text) (texts : List Text) : List Text :=
  (closest word texts).mergeSort fun a b => !precedes b a

end HostDiscovery.Text
