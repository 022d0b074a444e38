import ScopedMarkup.Text.Scanner

namespace ScopedMarkup.CommandLine

/-! What the program runs on: a library that writes its texts, and an interpreter
with a stack. Neither is part of the program, so a host is only known by what the
program relies on. -/

/-- A library that writes texts, to a terminal or elsewhere. Where the output is no
terminal, it may leave out what only a terminal understands; such things begin with
the escape character. -/
structure Echo where
  written : (terminal : Bool) → Text → Text
  written_terminal : ∀ text, written true text = text
  written_of_not_mem : ∀ terminal text, '\x1b' ∉ text → written terminal text = text

/-- What a run of the program comes to. -/
structure Answer where
  exitCode : Nat
  output : Text
  errors : Text
deriving DecidableEq, Repr

structure Host where
  echo : Echo
  outputTerminal : Bool
  errorsTerminal : Bool
  /-- The room for calls while a component is scoped. -/
  room : Nat
  /-- How the interpreter ends a run that needs more room. -/
  exhausted : Answer

namespace Host

/-- The text as it is written to the output. -/
def written (host : Host) (text : Text) : Text := host.echo.written host.outputTerminal text

/-- A line of output. -/
def line (host : Host) (text : Text) : Text := host.written (text ++ ['\n'])

def lines (host : Host) (texts : List Text) : Text := texts.flatMap host.line

/-- A line about an error. -/
def errorLine (host : Host) (text : Text) : Text :=
  host.echo.written host.errorsTerminal (text ++ ['\n'])

end Host

/-! ## One such library -/

/-- A class of characters between two, both included. -/
def between (first last : Char) (found : Char) : Bool := first ≤ found && found ≤ last

/-- A control sequence behind its escape character: a bracket, parameters,
intermediate characters and the one that ends it. -/
def controlSequence : Scanner :=
  .literal ['['] ++ .run (between '0' '?') ++ .run (between ' ' '/') ++
    .character (between '@' '~')

/-- The text without its control sequences. -/
def plainText : Text → Text
  | [] => []
  | first :: rest =>
      if first = '\x1b' then
        match _found : controlSequence.scan rest with
        | some (_, following) => plainText following
        | none => first :: plainText rest
      else first :: plainText rest
termination_by text => text.length
decreasing_by
  · have equal := congrArg List.length (controlSequence.splits _found)
    rw [List.length_append] at equal
    rw [List.length_cons]
    omega
  · exact Nat.lt_succ_self _
  · exact Nat.lt_succ_self _

example : plainText "a\x1b[1;31mb\x1b[" = ("ab\x1b[" : Text) := by decide +kernel

example : plainText "\x1b[!p\x1b[]\x1b[1 2m" = ("\x1b[1 2m" : Text) := by decide +kernel

theorem plainText_of_not_mem {text : Text} (absent : '\x1b' ∉ text) : plainText text = text := by
  induction text with
  | nil => rw [plainText]
  | cons first rest induction =>
      rcases not_or.mp (mt List.mem_cons.mpr absent) with ⟨different, absent⟩
      rw [plainText, if_neg (Ne.symm different), induction absent]

/-- A library that leaves out control sequences where the output is no terminal. -/
def Echo.stripping : Echo where
  written terminal text := if terminal then text else plainText text
  written_terminal _ := rfl
  written_of_not_mem terminal text absent := by
    cases terminal with
    | true => rfl
    | false => exact plainText_of_not_mem absent

end ScopedMarkup.CommandLine
