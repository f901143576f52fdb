import HostDiscovery.Text.Digits

/-!
# Patterns

A pattern reads a beginning of a text in every way it can: it gives the list of
all possible rests, so alternatives that overlap never hide one another. A
text matches a pattern fully when one of the rests is empty.
-/
namespace HostDiscovery

/-- All rests after a matching beginning, preferred ones first. -/
abbrev Pattern := Text → List Text

namespace Pattern

def one (accepts : Char → Bool) : Pattern
  | [] => []
  | c :: rest => if accepts c then [rest] else []

def char (c : Char) : Pattern := one (· == c)

def digit : Pattern := one fun c => (Text.asciiDigit? c).isSome

def andThen (first second : Pattern) : Pattern := fun s => (first s).flatMap second

def orElse (first second : Pattern) : Pattern := fun s => first s ++ second s

def optional (pattern : Pattern) : Pattern := fun s => pattern s ++ [s]

def matchesFully (pattern : Pattern) (s : Text) : Bool := (pattern s).any List.isEmpty

theorem mem_andThen {first second : Pattern} {s t : Text} :
    t ∈ andThen first second s ↔ ∃ u ∈ first s, t ∈ second u := by
  simp [andThen]

theorem mem_orElse {first second : Pattern} {s t : Text} :
    t ∈ orElse first second s ↔ t ∈ first s ∨ t ∈ second s := by
  simp [orElse]

theorem matchesFully_iff {pattern : Pattern} {s : Text} :
    matchesFully pattern s = true ↔ [] ∈ pattern s := by
  simp only [matchesFully, List.any_eq_true, List.isEmpty_iff]
  exact ⟨fun ⟨_, hm, he⟩ => he ▸ hm, fun h => ⟨_, h, rfl⟩⟩

end Pattern

end HostDiscovery
