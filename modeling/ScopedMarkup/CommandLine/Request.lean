import ScopedMarkup.CommandLine.Switch
import ScopedMarkup.Config
import ScopedMarkup.Text.Integer

namespace ScopedMarkup.CommandLine

/-! What the command line asks for. -/

inductive Command where
  /-- Show the tree of a component. -/
  | parse (strict : Bool)
  /-- Print a scoped component, or its style sheets only. -/
  | compile (config : Config) (scope : Text) (sheetsOnly : Bool)
  /-- Report findings, perhaps with what to do about them. -/
  | validate (strict fixes : Bool) (ignored : List Text)
deriving DecidableEq, Repr

/-- A command on a file. Verbose commands show the log. -/
structure Invocation where
  verbose : Bool
  command : Command
  file : Text
deriving DecidableEq, Repr

inductive Request where
  | version
  | run (invocation : Invocation)
deriving DecidableEq, Repr

def generalSwitches : List Switch := [⟨"--version", none, false⟩, ⟨"--verbose", some 'v', false⟩]

def parseSwitches : List Switch := [⟨"--strict", none, false⟩]

def compileSwitches : List Switch :=
  [⟨"--scope", none, true⟩, ⟨"--scope-prefix", none, true⟩, ⟨"--css-only", none, false⟩,
    ⟨"--strict", none, false⟩, ⟨"--max-depth", none, true⟩]

def validateSwitches : List Switch :=
  [⟨"--strict", none, false⟩, ⟨"--fixes", none, false⟩, ⟨"--ignore", none, true⟩]

/-- The settings that the switches of a compilation ask for. -/
def config? (arguments : Arguments) : Option Config := do
  let stem := (arguments.value? "--scope-prefix").getD Config.standard.markerStem
  let depth ← match arguments.value? "--max-depth" with
    | none => some (greatestDepth : Int)
    | some digits => digits.integer?
  (Config.make stem depth (arguments.has "--strict")).toOption

/-- The command of this name and its switches, and what the switches ask of
it. -/
def command? (name : Text) : Option (List Switch × (Arguments → Option Command)) :=
  if name = ("parse" : Text) then
    some (parseSwitches, fun arguments => some (.parse (arguments.has "--strict")))
  else if name = ("compile" : Text) then
    some (compileSwitches, fun arguments => do
      let scope ← arguments.value? "--scope"
      let config ← config? arguments
      some (.compile config scope (arguments.has "--css-only")))
  else if name = ("validate" : Text) then
    some (validateSwitches, fun arguments =>
      some (.validate (arguments.has "--strict") (arguments.has "--fixes")
        (arguments.values "--ignore")))
  else none

namespace Request

/-- The request to name the version, if the general switches ask for it. -/
def version? (arguments : List Text) : Option Request := do
  let general ← Arguments.read? generalSwitches false arguments
  if general.has "--version" then some .version else none

/-- The request that arguments make, if they can be understood. Each command
takes exactly one file. What stands in the place of a command and is none is
taken for general switches, also behind two hyphens. -/
def ofArguments? (arguments : List Text) : Option Request := do
  let general ← Arguments.read? generalSwitches false arguments
  if general.has "--version" then return .version
  match general.plain with
  | [] => none
  | name :: rest =>
      match command? name with
      | none => version? general.plain
      | some (switches, build) => do
          let own ← Arguments.read? switches true rest
          match own.plain with
          | [file] => do
              let command ← build own
              return .run ⟨general.has "--verbose", command, file⟩
          | _ => none

example : ofArguments? ["-v", "parse", "a.pc", "--strict"] =
    some (.run ⟨true, .parse true, "a.pc"⟩) := by decide +kernel

example : ofArguments? ["--", "--version"] = some .version := by decide +kernel

end Request

end ScopedMarkup.CommandLine
