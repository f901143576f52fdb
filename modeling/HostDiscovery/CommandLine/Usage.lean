import HostDiscovery.Text.Quoted
import HostDiscovery.Text.Similarity

/-!
# Wrong usage

What can be wrong with the arguments of a command, and how it is said. Most
errors come after the usage line of the command; an option without its value
is reported alone. A name that is not known is reported with the known names
that it is close to.
-/
namespace HostDiscovery.CommandLine

inductive ValueProblem
  | notInteger (text : String)
  | outOfRange (i least greatest : Int)
  | notNumber (text : String)
  | isDirectory (path : String)
  | isFile (path : String)
  deriving DecidableEq, Repr

def ValueProblem.message : ValueProblem → String
  | notInteger text => Text.quote text ++ " is not a valid integer range."
  | outOfRange i least greatest => s!"{i} is not in the range {least}<=x<={greatest}."
  | notNumber text => Text.quote text ++ " is not a valid float."
  | isDirectory path => "File " ++ Text.quote path ++ " is a directory."
  | isFile path => "Directory " ++ Text.quote path ++ " is a file."

inductive UsageError
  /-- An option that is none of the known ones, with those that come into question. -/
  | unknownOption (name : String) (known : List String)
  | valueMissing (option : String)
  | valueUnexpected (option : String)
  | argumentMissing (name : String)
  | extraArguments (arguments : List String)
  | invalidValue (parameter : String) (problem : ValueProblem)
  | unknownCommand (name : String) (known : List String)
  | commandMissing
  deriving DecidableEq, Repr

def similarNames (word : String) (known : List String) : List String :=
  (Text.suggestions word.toList (known.map String.toList)).map String.ofList

/-- A question that names what may have been meant, if anything may. -/
def hint (word : String) (known : List String) : String :=
  match similarNames word known with
  | [] => ""
  | [name] => " Did you mean " ++ Text.quote name ++ "?"
  | names => " (Did you mean one of: " ++ ", ".intercalate (names.map Text.quote) ++ "?)"

namespace UsageError

def message : UsageError → String
  | unknownOption name known => "No such option " ++ Text.quote name ++ "." ++ hint name known
  | valueMissing option => "Option " ++ Text.quote option ++ " requires an argument."
  | valueUnexpected option => "Option " ++ Text.quote option ++ " does not take a value."
  | argumentMissing name => "Missing argument '" ++ name ++ "'."
  | extraArguments arguments =>
    let noun := if arguments.length = 1 then "argument" else "arguments"
    "Got unexpected extra " ++ noun ++ " (" ++ " ".intercalate arguments ++ ")"
  | invalidValue parameter problem =>
    "Invalid value for '" ++ parameter ++ "': " ++ problem.message
  | unknownCommand name known => "No such command " ++ Text.quote name ++ "." ++ hint name known
  | commandMissing => "Missing command."

def showsUsage : UsageError → Bool
  | valueMissing _ | valueUnexpected _ => false
  | _ => true

def report (path usage : String) (e : UsageError) : String :=
  let advice := usage ++ "\nTry '" ++ path ++ " --help' for help.\n\n"
  (if e.showsUsage then advice else "") ++ "Error: " ++ e.message ++ "\n"

end UsageError

end HostDiscovery.CommandLine
