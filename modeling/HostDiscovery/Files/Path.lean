import HostDiscovery.Text.Split
import HostDiscovery.Text.Utf8

/-!
# Paths

A path is its leading slashes and its components. Empty components and single
dots vanish when a text is read, double dots stay. Three or more leading
slashes count as one, exactly two are kept.
-/
namespace HostDiscovery

structure FilePath where
  /-- None for a relative path, otherwise one or two. -/
  slashes : Nat
  parts : List Text
  deriving DecidableEq, Repr

namespace FilePath

open Text

def parentMark : Text := ['.', '.']

def partsOf (s : Text) : List Text := (splitOn '/' s).filter fun part => part ≠ [] && part ≠ ['.']

def leadingSlashes (s : Text) : Nat := (s.takeWhile (· == '/')).length

def parse (s : Text) : FilePath where
  slashes := match leadingSlashes s with
    | 0 => 0
    | 2 => 2
    | _ => 1
  parts := partsOf s

def ofString (s : String) : FilePath := parse s.toList

def isAbsolute (p : FilePath) : Bool := p.slashes ≠ 0

/-- The text of a path; the empty relative path is written as a dot. -/
def toText (p : FilePath) : Text :=
  if p.slashes = 0 && p.parts.isEmpty then ['.']
  else List.replicate p.slashes '/' ++ joinWith ['/'] p.parts

def toString (p : FilePath) : String := String.ofList p.toText

/-- A relative path below a base; an absolute path replaces the base. -/
def join (base p : FilePath) : FilePath :=
  if p.isAbsolute then p else { base with parts := base.parts ++ p.parts }

/-- The last component, empty where there is none. -/
def name (p : FilePath) : Text := p.parts.getLast?.getD []

def parent (p : FilePath) : FilePath := { p with parts := p.parts.dropLast }

/-- Double dots removed together with the component before them. -/
def collapse (p : FilePath) : FilePath :=
  { p with
    parts := (p.parts.foldl (fun before part =>
      if part = parentMark then before.drop 1 else part :: before) []).reverse }

def hasNul (p : FilePath) : Bool := p.parts.any (·.contains '\x00')

end FilePath

end HostDiscovery
