import HostDiscovery.Text.Blank

/-!
# Control sequences

A terminal takes some texts for commands: the escape character and an opening
square bracket, then parameter characters, then intermediate characters, and
one final character, which need not be a letter. `withoutControlSequences`
leaves them out, so that a text that comes from outside cannot steer a terminal.
An escape that begins no complete sequence is kept.
-/
namespace HostDiscovery.Text

/-- Digits and the signs behind them. -/
def isParameter (c : Char) : Bool := 0x30 ≤ c.toNat && c.toNat ≤ 0x3F

/-- Signs from the blank to the slash. -/
def isIntermediate (c : Char) : Bool := 0x20 ≤ c.toNat && c.toNat ≤ 0x2F

/-- Letters and the signs around them. -/
def isFinal (c : Char) : Bool := 0x40 ≤ c.toNat && c.toNat ≤ 0x7E

/-- What follows a control sequence at the start of a text, if there is one. -/
def afterControlSequence? : Text → Option Text
  | '\x1b' :: '[' :: rest =>
    match (rest.dropWhile isParameter).dropWhile isIntermediate with
    | [] => none
    | c :: rest => if isFinal c then some rest else none
  | _ => none

/-- What a text keeps, the next `skipped` characters being part of a sequence. -/
def keptAfter (skipped : Nat) : Text → Text
  | [] => []
  | c :: rest =>
    match skipped with
    | skipped + 1 => keptAfter skipped rest
    | 0 =>
      match afterControlSequence? (c :: rest) with
      | some after => keptAfter (rest.length - after.length) rest
      | none => c :: keptAfter 0 rest

def withoutControlSequences (s : Text) : Text := keptAfter 0 s

example : withoutControlSequences "a\x1b[1;31mb\x1b[ is".toList = "abs".toList := by
  decide +kernel

end HostDiscovery.Text
