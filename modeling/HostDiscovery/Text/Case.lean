import HostDiscovery.Text.CaseTable

/-!
# Letter case

Upper and lower case in full Unicode: a letter may become several characters,
and a capital sigma becomes a final sigma exactly when a cased character stands
before it and none after it.
-/
namespace HostDiscovery.Text

/-- One character through a table of expansions and a table of runs. -/
def mapCase (expansions : List (Nat × List Nat)) (runs : List CaseRun) (c : Char) : Text :=
  match expansions.find? (·.1 == c.toNat) with
  | some entry => entry.2.map Char.ofNat
  | none =>
    match runs.find? (·.covers c.toNat) with
    | some run => [Char.ofNat (c.toNat + run.shift).toNat]
    | none => [c]

def upperChar (c : Char) : Text := mapCase upperExpansions upperRuns c

def upper (s : Text) : Text := s.flatMap upperChar

def lowerChar (c : Char) : Text := mapCase lowerExpansions lowerRuns c

def meetsCased (s : Text) : Bool :=
  match s.dropWhile (fun c => inIntervals skippedIntervals c.toNat) with
  | [] => false
  | c :: _ => inIntervals casedIntervals c.toNat

/-- Lower case of a text, given the characters before it, nearest first. -/
def lowerAfter (before : Text) : Text → Text
  | [] => []
  | c :: rest =>
    (if c = 'Σ' then [if meetsCased before && !meetsCased rest then 'ς' else 'σ']
      else lowerChar c)
      ++ lowerAfter (c :: before) rest

def lower (s : Text) : Text := lowerAfter [] s

end HostDiscovery.Text
