import HostDiscovery.Text.Blank

/-!
# Splitting, joining and searching

`splitOn` cuts a text at every occurrence of one character and keeps empty
pieces, `cutAt` cuts it at the first occurrence only, and `joinWith` puts
pieces together again.
-/
namespace HostDiscovery.Text

/-- The pieces between the occurrences of a separator; there is always at least one. -/
def splitOn (separator : Char) : Text → List Text
  | [] => [[]]
  | c :: rest =>
    if c = separator then [] :: splitOn separator rest
    else
      match splitOn separator rest with
      | [] => [[c]]
      | piece :: more => (c :: piece) :: more

/-- The text before the first separator, and the text after it if there is one. -/
def cutAt (separator : Char) : Text → Text × Option Text
  | [] => ([], none)
  | c :: rest =>
    if c = separator then ([], some rest)
    else ((c :: (cutAt separator rest).1), (cutAt separator rest).2)

/-- Pieces with a separator between each two of them. -/
def joinWith (separator : Text) : List Text → Text
  | [] => []
  | [piece] => piece
  | piece :: next :: more => piece ++ separator ++ joinWith separator (next :: more)

/-- Whether `part` occurs somewhere in a text as consecutive characters. -/
def includes (part : Text) : Text → Bool
  | [] => part.isEmpty
  | c :: rest => part.isPrefixOf (c :: rest) || includes part rest

theorem splitOn_ne_nil (separator : Char) (s : Text) : splitOn separator s ≠ [] := by
  cases s with
  | nil => simp [splitOn]
  | cons c rest =>
    simp only [splitOn]
    split
    · simp
    · split <;> simp

end HostDiscovery.Text
