import HostDiscovery.Failure
import HostDiscovery.Files.Path
import HostDiscovery.Text.Quoted

/-!
# The file system

Regular files and directories, each at a location: the list of names from the
root to it. The root is always a directory. `get?` is the view in which all
operations are described: what is at a location, if anything. There are no
symbolic links, so a double dot leads to the location without its last name.

Following a path fails at a missing or regular component that something is
looked up in, and at a name that is too long. Each operation names the path it
was given in its failure.
-/
namespace HostDiscovery

/-- Names from the root of the file system. -/
abbrev Location := List Text

abbrev Bytes := List UInt8

inductive Entry
  | file (content : Bytes)
  | directory
  deriving DecidableEq, Repr

structure FileSystem where
  entries : List (Location × Entry) := []
  /-- Where relative paths start. -/
  workingDirectory : Location := []
  deriving Repr

inductive PathFault
  | missing
  | occupied
  | notDirectory
  | isDirectory
  | nameTooLong
  deriving DecidableEq, Repr

namespace PathFault

def number : PathFault → Nat
  | missing => 2
  | occupied => 17
  | notDirectory => 20
  | isDirectory => 21
  | nameTooLong => 36

def reason : PathFault → String
  | missing => "No such file or directory"
  | occupied => "File exists"
  | notDirectory => "Not a directory"
  | isDirectory => "Is a directory"
  | nameTooLong => "File name too long"

def kind : PathFault → FailureKind
  | missing => .notFound
  | occupied => .alreadyExists
  | notDirectory => .notDirectory
  | isDirectory => .isDirectory
  | nameTooLong => .os

def failure (fault : PathFault) (path : FilePath) : Failure where
  kind := fault.kind
  message := s!"[Errno {fault.number}] {fault.reason}: {Text.quote path.toString}"

end PathFault

/-- A path with a NUL character is refused before anything is looked up. -/
def nulFailure : Failure := { kind := .value, message := "embedded null byte" }

/-- What a path leads to: an entry, or a free name in a directory. -/
inductive Place
  | taken (location : Location) (entry : Entry)
  | free (location : Location)
  deriving DecidableEq, Repr

namespace FileSystem

def get? (fs : FileSystem) : Location → Option Entry
  | [] => some .directory
  | location => (fs.entries.find? (·.1 == location)).map (·.2)

/-- Puts an entry at a location, in place of one that was there. -/
def put (fs : FileSystem) (location : Location) (entry : Entry) : FileSystem :=
  { fs with entries := (location, entry) :: fs.entries.filter (fun e => e.1 ≠ location) }

/-- The most bytes of one name. -/
def nameLimit : Nat := 255

/-- The least number of bytes that is too many for a whole path. -/
def pathLimit : Nat := 4096

def follow (fs : FileSystem) : Location → List Text → Except PathFault Place
  | here, [] => .ok (.taken here .directory)
  | here, part :: rest =>
    if part = FilePath.parentMark then fs.follow here.dropLast rest
    else if nameLimit < Utf8.size part then .error .nameTooLong
    else
      match fs.get? (here ++ [part]), rest with
      | none, [] => .ok (.free (here ++ [part]))
      | none, _ :: _ => .error .missing
      | some .directory, rest => fs.follow (here ++ [part]) rest
      | some (.file content), [] => .ok (.taken (here ++ [part]) (.file content))
      | some (.file _), _ :: _ => .error .notDirectory

def locate (fs : FileSystem) (path : FilePath) : Except PathFault Place :=
  if pathLimit ≤ Utf8.size path.toText then .error .nameTooLong
  else fs.follow (if path.isAbsolute then [] else fs.workingDirectory) path.parts

/-- The entry a path leads to. A missing or blocked path has none; other faults are failures. -/
def entryAt (fs : FileSystem) (path : FilePath) : Except Failure (Option Entry) :=
  if path.hasNul then .ok none
  else
    match fs.locate path with
    | .ok (.taken _ entry) => .ok (some entry)
    | .ok (.free _) | .error .missing | .error .notDirectory => .ok none
    | .error fault => .error (fault.failure path)

def pathExists (fs : FileSystem) (path : FilePath) : Except Failure Bool :=
  (fs.entryAt path).map Option.isSome

def isDirectory (fs : FileSystem) (path : FilePath) : Except Failure Bool :=
  (fs.entryAt path).map (· == some .directory)

def makeDirectory (fs : FileSystem) (path : FilePath) : Except Failure FileSystem :=
  if path.hasNul then .error nulFailure
  else
    match fs.locate path with
    | .ok (.free location) => .ok (fs.put location .directory)
    | .ok (.taken _ _) => .error (PathFault.occupied.failure path)
    | .error fault => .error (fault.failure path)

/-- A failed creation counts as done if a directory may be and is there already. -/
def settle (mayExist : Bool) (fs : FileSystem) (path : FilePath) :
    Except Failure FileSystem → Except Failure Unit × FileSystem
  | .ok fs => (.ok (), fs)
  | .error f =>
    match fs.isDirectory path with
    | .ok true => if mayExist && f.kind ≠ .notFound then (.ok (), fs) else (.error f, fs)
    | _ => (.error f, fs)

/-- Creates a directory, first its missing ancestors; the components come last one first. Any number
of ancestors may be missing: there is no limit on how deep the creation goes. -/
def makeDirectoriesFrom (mayExist : Bool) (slashes : Nat) :
    List Text → FileSystem → Except Failure Unit × FileSystem
  | [], fs => settle mayExist fs ⟨slashes, []⟩ (fs.makeDirectory ⟨slashes, []⟩)
  | part :: above, fs =>
    let path : FilePath := ⟨slashes, (part :: above).reverse⟩
    match fs.makeDirectory path with
    | .error ⟨.notFound, _, _⟩ =>
      match makeDirectoriesFrom true slashes above fs with
      | (.error f, fs) => (.error f, fs)
      | (.ok (), fs) => settle mayExist fs path (fs.makeDirectory path)
    | result => settle mayExist fs path result

/-- Creates a directory with its missing ancestors. What was created stays if a later step fails. -/
def makeDirectories (fs : FileSystem) (mayExist : Bool) (path : FilePath) :
    Except Failure Unit × FileSystem :=
  makeDirectoriesFrom mayExist path.slashes path.parts.reverse fs

/-- Where a file can be opened for writing, and what it holds so far. -/
def writable (fs : FileSystem) (path : FilePath) : Except Failure (Location × Bytes) :=
  if path.hasNul then .error nulFailure
  else
    match fs.locate path with
    | .ok (.free location) => .ok (location, [])
    | .ok (.taken location (.file content)) => .ok (location, content)
    | .ok (.taken _ .directory) => .error (PathFault.isDirectory.failure path)
    | .error fault => .error (fault.failure path)

def write (fs : FileSystem) (path : FilePath) (content : Bytes) : Except Failure FileSystem :=
  (fs.writable path).map fun (location, _) => fs.put location (.file content)

/-- An empty file, in place of what the path held, and where it is. -/
def create (fs : FileSystem) (path : FilePath) : Except Failure (Location × FileSystem) :=
  (fs.writable path).map fun (location, _) => (location, fs.put location (.file []))

def extend (fs : FileSystem) (location : Location) (bytes : Bytes) : FileSystem :=
  match fs.get? location with
  | some (.file content) => fs.put location (.file (content ++ bytes))
  | _ => fs

def read (fs : FileSystem) (path : FilePath) : Except Failure Bytes :=
  if path.hasNul then .error nulFailure
  else
    match fs.locate path with
    | .ok (.taken _ (.file content)) => .ok content
    | .ok (.taken _ .directory) => .error (PathFault.isDirectory.failure path)
    | .ok (.free _) => .error (PathFault.missing.failure path)
    | .error fault => .error (fault.failure path)

theorem get?_put_self {fs : FileSystem} {location : Location} (h : location ≠ [])
    (entry : Entry) : (fs.put location entry).get? location = some entry := by
  cases location with
  | nil => exact absurd rfl h
  | cons name rest => simp [get?, put]

theorem find?_filter_ne {location other : Location} (h : other ≠ location)
    (entries : List (Location × Entry)) :
    (entries.filter fun e => e.1 ≠ location).find? (·.1 == other) =
      entries.find? (·.1 == other) := by
  induction entries with
  | nil => rfl
  | cons e more ih =>
    by_cases he : e.1 = location
    · have hne : (e.1 == other) = false := by rw [he]; simpa using fun e => h e.symm
      rw [List.filter_cons_of_neg (by simp [he]), ih, List.find?_cons, hne]
    · rw [List.filter_cons_of_pos (by simp [he]), List.find?_cons, List.find?_cons, ih]

theorem get?_put_of_ne {fs : FileSystem} {location other : Location} (h : other ≠ location)
    (entry : Entry) : (fs.put location entry).get? other = fs.get? other := by
  cases other with
  | nil => rfl
  | cons name rest =>
    have hne : (location == name :: rest) = false := by simpa using fun e => h e.symm
    simp only [get?, put, List.find?_cons, hne, find?_filter_ne h]

end FileSystem

end HostDiscovery
