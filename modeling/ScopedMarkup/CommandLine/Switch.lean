import ScopedMarkup.Text.Basic

namespace ScopedMarkup.CommandLine

/-! Arguments of a command: switches, some of which take a value, and plain
arguments between or behind them. After two hyphens that stand alone everything
is a plain argument. -/

structure Switch where
  /-- With its two hyphens. -/
  name : Text
  letter : Option Char := none
  takesValue : Bool := false
deriving DecidableEq, Repr

/-- A switch that was given, with its value if it takes one. -/
structure Given where
  name : Text
  value : Option Text
deriving DecidableEq, Repr

structure Arguments where
  given : List Given
  plain : List Text
deriving DecidableEq, Repr

namespace Arguments

def addGiven (given : List Given) (arguments : Arguments) : Arguments :=
  { arguments with given := given ++ arguments.given }

def addPlain (argument : Text) (arguments : Arguments) : Arguments :=
  { arguments with plain := argument :: arguments.plain }

/-- Whether a switch was given. -/
def has (name : Text) (arguments : Arguments) : Bool :=
  arguments.given.any fun given => given.name = name

/-- The values that a switch was given with, in their order. -/
def values (name : Text) (arguments : Arguments) : List Text :=
  (arguments.given.filter fun given => given.name = name).filterMap Given.value

/-- The value that counts if a switch was given more than once: the last. -/
def value? (name : Text) (arguments : Arguments) : Option Text :=
  (arguments.values name).getLast?

end Arguments

/-- The switches that letters behind one hyphen stand for. None of them takes a
value. -/
def lettered? (switches : List Switch) (letters : Text) : Option (List Given) :=
  letters.mapM fun letter =>
    (switches.find? fun switch => switch.letter = some letter && !switch.takesValue).map
      fun switch => ⟨switch.name, none⟩

/-- A name and the value that is joined to it by an equals sign. -/
def splitEquals (argument : Text) : Text × Option Text :=
  match argument.cut? ['='] with
  | none => (argument, none)
  | some (name, value) => (name, some value)

/-- The arguments read by these switches; nothing if one of them does not fit.
Unless switches may be mixed with plain arguments, the first plain argument ends
the switches. -/
def Arguments.read? (switches : List Switch) (mixed : Bool) : List Text → Option Arguments
  | [] => some ⟨[], []⟩
  | argument :: rest =>
      if argument = ("--" : Text) then some ⟨[], rest⟩
      else if argument.head? = some '-' && argument.length > 1 then
        let (name, joined) := splitEquals argument
        match switches.find? fun switch => switch.name = name with
        | none =>
            if (argument.after? "--").isSome then none
            else do
              let given ← lettered? switches (argument.drop 1)
              let more ← read? switches mixed rest
              some (more.addGiven given)
        | some switch =>
            match switch.takesValue, joined with
            | false, some _ => none
            | false, none => (read? switches mixed rest).map (·.addGiven [⟨name, none⟩])
            | true, some value => (read? switches mixed rest).map (·.addGiven [⟨name, some value⟩])
            | true, none =>
                match rest with
                | [] => none
                | value :: following =>
                    (read? switches mixed following).map (·.addGiven [⟨name, some value⟩])
      else if mixed then (read? switches mixed rest).map (·.addPlain argument)
      else some ⟨[], argument :: rest⟩

example : Arguments.read? [⟨"--a", none, true⟩, ⟨"--b", some 'b', false⟩] true
    ["x", "--a", "--b", "-b", "--", "-y"] =
    some ⟨[⟨"--a", some "--b"⟩, ⟨"--b", none⟩], ["x", "-y"]⟩ := by decide +kernel

end ScopedMarkup.CommandLine
