import HostDiscovery.Files.System

/-!
# Homes of users

A tilde as the first component stands for the home of the user who runs the
program, a tilde and a name for the home of that user. A name that no user can
have, with a NUL character in it, is refused before it is looked up.
-/
namespace HostDiscovery

structure Users where
  ownHome : Text
  homes : List (Text × Text) := []
  deriving Repr

def homeUnknown : Failure :=
  { kind := .runtime, message := "Could not determine home directory." }

namespace Users

/-- The home of a named user, or the own home for the empty name. -/
def homeOf (users : Users) (name : Text) : Except Failure Text :=
  if name.isEmpty then .ok users.ownHome
  else if name.contains '\x00' then .error nulFailure
  else
    match users.homes.find? (·.1 == name) with
    | none => .error homeUnknown
    | some (_, home) => .ok home

/-- A text without the slashes at its end; nothing but slashes is the root. -/
def withoutLastSlashes (s : Text) : Text :=
  match (s.reverse.dropWhile (· == '/')).reverse with
  | [] => ['/']
  | s => s

def expand (users : Users) (p : FilePath) : Except Failure FilePath :=
  if p.isAbsolute then .ok p
  else
    match p.parts with
    | ('~' :: name) :: rest =>
      match users.homeOf name with
      | .error f => .error f
      | .ok home =>
        let home := withoutLastSlashes home
        if home.head? == some '~' then .error homeUnknown
        else .ok ((FilePath.parse home).join ⟨0, rest⟩)
    | _ => .ok p

end Users

end HostDiscovery
