import HostDiscovery.CommandLine.Usage
import HostDiscovery.Text.Split

/-!
# Options and words

Arguments are options, their values, and words. Options start with a hyphen and
end at a double hyphen; a single hyphen is a word. The value of a long option
stands after an equals sign or is the next argument, whatever that is. Short
flags may stand together behind one hyphen.
-/
namespace HostDiscovery.CommandLine

inductive OptionKind
  | flag (short : Option Char)
  | valued
  deriving DecidableEq, Repr

structure OptionSpec where
  name : String
  kind : OptionKind
  deriving DecidableEq, Repr

structure GivenOption where
  name : String
  value : Option String := none
  deriving DecidableEq, Repr

structure Arguments where
  options : List GivenOption := []
  words : List String := []
  deriving DecidableEq, Repr

inductive Token
  | word
  | endOfOptions
  | complete (options : List GivenOption)
  | awaiting (name : String)
  deriving DecidableEq, Repr

namespace Arguments

def shortFlag? (specs : List OptionSpec) (c : Char) : Option OptionSpec :=
  specs.find? (·.kind == .flag (some c))

def shortFlags (specs : List OptionSpec) : Text → Except UsageError (List GivenOption)
  | [] => .ok []
  | c :: rest =>
    match shortFlag? specs c, shortFlags specs rest with
    | none, _ => .error (.unknownOption (String.ofList ['-', c]) [])
    | some _, .error e => .error e
    | some spec, .ok more => .ok ({ name := spec.name } :: more)

/-- An argument that starts with a hyphen and is longer than that. -/
def optionToken (specs : List OptionSpec) (s : Text) : Except UsageError Token :=
  let (name, value) := Text.cutAt '=' s
  let name := String.ofList name
  match specs.find? (·.name == name), value with
  | some ⟨_, .valued⟩, some value =>
    .ok (.complete [{ name, value := some (String.ofList value) }])
  | some ⟨_, .valued⟩, none => .ok (.awaiting name)
  | some ⟨_, .flag _⟩, some _ => .error (.valueUnexpected name)
  | some ⟨_, .flag _⟩, none => .ok (.complete [{ name }])
  | none, _ =>
    if ['-', '-'].isPrefixOf s then .error (.unknownOption name (specs.map OptionSpec.name))
    else (shortFlags specs (s.drop 1)).map Token.complete

def tokenOf (specs : List OptionSpec) (argument : String) : Except UsageError Token :=
  match argument.toList with
  | ['-', '-'] => .ok .endOfOptions
  | '-' :: c :: rest => optionToken specs ('-' :: c :: rest)
  | _ => .ok .word

/-- Reads arguments; without `mixed` the first word ends the options. -/
def read (specs : List OptionSpec) (mixed : Bool) : List String → Except UsageError Arguments
  | [] => .ok {}
  | argument :: rest =>
    match tokenOf specs argument with
    | .error e => .error e
    | .ok .endOfOptions => .ok { words := rest }
    | .ok .word =>
      if mixed then
        (read specs mixed rest).map fun a => { a with words := argument :: a.words }
      else .ok { words := argument :: rest }
    | .ok (.complete options) =>
      (read specs mixed rest).map fun a => { a with options := options ++ a.options }
    | .ok (.awaiting name) =>
      match rest with
      | [] => .error (.valueMissing name)
      | value :: rest =>
        (read specs mixed rest).map fun a =>
          { a with options := { name, value := some value } :: a.options }

def has (a : Arguments) (name : String) : Bool := a.options.any (·.name == name)

/-- The value of an option; of several the last one counts. -/
def value? (a : Arguments) (name : String) : Option String :=
  (a.options.reverse.find? (·.name == name)).bind (·.value)

def word (a : Arguments) (i : Nat) (name : String) : Except UsageError String :=
  match a.words[i]? with
  | some s => .ok s
  | none => .error (.argumentMissing name)

def atMost (a : Arguments) (n : Nat) : Except UsageError Unit :=
  match a.words.drop n with
  | [] => .ok ()
  | extra => .error (.extraArguments extra)

end Arguments

end HostDiscovery.CommandLine
