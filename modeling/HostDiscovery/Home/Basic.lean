import HostDiscovery.Defaults
import HostDiscovery.Environment
import HostDiscovery.Files.Users
import HostDiscovery.Properties.Parser
import HostDiscovery.Properties.Writer

/-!
# The home directory

A home is a directory for files, logs and properties. Opening it creates it
where it is missing; it must then be a writable directory whose absolute path
has no space. Copies go right below the home under the last name of the path
they are given, and keep a file that is there unless told otherwise. Properties
files are best effort: one that cannot be read is empty, and one that cannot be
written is logged.
-/
namespace HostDiscovery

structure Machine where
  users : Users
  mayWrite : FilePath → Bool := fun _ => true
  /-- The time in the form that properties files begin with. -/
  time : Text

structure Home where
  directory : FilePath
  deriving DecidableEq, Repr

inductive HomeError
  | noDirectory
  | hasSpace (path : FilePath)
  | notCreated (path : FilePath)
  | notDirectory (path : FilePath)
  | notWritable (path : FilePath)
  | notCopied (destination : FilePath)
  deriving DecidableEq, Repr

def HomeError.message : HomeError → String
  | noDirectory => "The directory should not be None."
  | hasSpace path =>
    "Recorder home directory \"" ++ path.toString ++ "\" should not contain space. "
      ++ "Please set RECORDER_HOME env var in a different location"
  | notCreated path =>
    "Recorder home directory " ++ path.toString ++ " is not created. "
      ++ "Please check the permission"
  | notDirectory path =>
    "Recorder home directory " ++ path.toString ++ " is not directory. "
      ++ "Please delete this file in advance"
  | notWritable path =>
    "Recorder home directory " ++ path.toString ++ " is not writable. "
      ++ "Please adjust permission on this folder"
  | notCopied destination => "Failed to write a file to " ++ destination.toString

namespace Home

/-- A refusal, or a failure that is passed on as it is. -/
inductive Fault
  | refused (error : HomeError)
  | failed (failure : Failure)
  deriving DecidableEq, Repr

def logger : String := childLogger (some "home")

def orFail {α : Type} (r : Except Failure α) : Act Fault α := Act.ofExcept (r.mapError Fault.failed)

def absolutePath (machine : Machine) (fs : FileSystem) (directory : String) :
    Except Failure FilePath :=
  (machine.users.expand (FilePath.ofString directory)).map fun path =>
    FilePath.join ⟨1, fs.workingDirectory⟩ path

def create (path : FilePath) : Act Fault Unit := do
  let fs ← Act.files
  if ← orFail (fs.pathExists path) then return
  let (result, fs) := fs.makeDirectories false path
  Act.setFiles fs
  match result with
  | .ok () => return
  | .error f =>
    if f.kind.isSystem then Act.fail (.refused (.notCreated path)) else Act.fail (.failed f)

/-- Opens the home at a directory, or says why it cannot be one. -/
def openAt (machine : Machine) (directory : Option String) : Act Fault Home := do
  match directory with
  | none => Act.fail (.refused .noDirectory)
  | some directory =>
    let path ← orFail (absolutePath machine (← Act.files) directory)
    if (Text.trim path.toText).contains ' ' then Act.fail (.refused (.hasSpace path))
    create path
    if !(← orFail ((← Act.files).isDirectory path)) then
      Act.fail (.refused (.notDirectory path))
    if !machine.mayWrite path then Act.fail (.refused (.notWritable path))
    Act.log .debug logger ("Using recorder home " ++ path.toString)
    return { directory := path }

def defaultDirectory (machine : Machine) : Except Failure FilePath :=
  (machine.users.expand (FilePath.ofString "~")).map fun path =>
    path.join (FilePath.ofString Defaults.homeDirectoryName)

/-- Opens the home that the environment names, or the one in the user's directory. -/
def openFromEnvironment (machine : Machine) (env : Environment) : Act Fault Home := do
  let default ← orFail (defaultDirectory machine)
  let named ← env.look "RECORDER_HOME"
  openAt machine (some (named.getD default.toString))

def logDirectory (home : Home) : FilePath :=
  home.directory.join (FilePath.ofString Defaults.logDirectoryName)

/-- A path below the home; an absolute path stands for itself. -/
def file (home : Home) (path : String) : FilePath := home.directory.join (FilePath.ofString path)

/-- Where a copy for a target goes: the last name of the target, right below the home. -/
def copyDestination (home : Home) (target : String) : FilePath :=
  home.directory.join (FilePath.parse (FilePath.ofString target).name)

/-- Bytes to copy, which may break off with a failure after the last of them. -/
structure Stream where
  content : Bytes
  broken : Option Failure := none
  deriving DecidableEq, Repr

def copyFault (destination : FilePath) (f : Failure) : Fault :=
  if f.kind.isSystem then .refused (.notCopied destination) else .failed f

def copy (home : Home) (stream : Stream) (target : String) (overwrite : Bool) :
    Act Fault FilePath := do
  let destination := home.copyDestination target
  let fs ← Act.files
  let occupied ← orFail (fs.pathExists destination)
  if occupied && !overwrite then return destination
  match fs.write destination stream.content with
  | .error f => Act.fail (copyFault destination f)
  | .ok fs =>
    Act.setFiles fs
    match stream.broken with
    | some f => Act.fail (copyFault destination f)
    | none => return destination

def readProperties (fs : FileSystem) (path : FilePath) : Except Failure Properties :=
  match fs.read path with
  | .error f => .error f
  | .ok bytes =>
    (Properties.ofBytes bytes).mapError fun refusal =>
      { kind := .undecodable, message := refusal.message }

/-- The properties in a file; none where it is missing or cannot be read. -/
def loadProperties (home : Home) (path : String) : Act Failure Properties := do
  match readProperties (← Act.files) (home.file path) with
  | .ok properties => return properties
  | .error f =>
    if f.kind.isSystem || f.kind == .undecodable then
      Act.log .debug logger ("No properties loaded from " ++ path ++ ": " ++ f.message)
      return Properties.empty
    else Act.fail f

def writeBelow (fs : FileSystem) (path : FilePath) (content : Bytes) :
    Except Failure Unit × FileSystem :=
  match fs.makeDirectories true path.parent with
  | (.error f, fs) => (.error f, fs)
  | (.ok (), fs) =>
    match fs.write path content with
    | .error f => (.error f, fs)
    | .ok fs => (.ok (), fs)

/-- Writes properties to a file; a failure of the system is logged only. -/
def saveProperties (home : Home) (machine : Machine) (path : String) (properties : Properties) :
    Act Failure Unit := do
  let target := home.file path
  let content := Utf8.encode (Properties.write machine.time properties)
  let (result, fs) := writeBelow (← Act.files) target content
  Act.setFiles fs
  match result with
  | .ok () => return
  | .error f =>
    if f.kind.isSystem then
      Act.log .error logger
        ("Could not save property file on " ++ target.toString ++ ": " ++ f.message)
    else Act.fail f

end Home

end HostDiscovery
