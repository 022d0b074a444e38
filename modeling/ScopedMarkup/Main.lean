import ScopedMarkup.CommandLine.Answer

/-! The program: it reads the file that the arguments name, and prints the
answer. -/

open ScopedMarkup ScopedMarkup.CommandLine

/-- What a path leads to, unless there is nothing. -/
def entryAt? (path : Text) : IO (Option Entry) := do
  try
    return some (.file (← IO.FS.readFile (String.ofList path)).toList)
  catch
    | .noFileOrDirectory .. => return none
    | _ => return some .unreadable

/-- The room that an interpreter has unless it is told otherwise. -/
def usualRoom : Nat := 1000

def thisHost : IO Host := do
  return {
    echo := .stripping
    outputTerminal := ← (← IO.getStdout).isTty
    errorsTerminal := ← (← IO.getStderr).isTty
    room := usualRoom
    exhausted := ⟨1, [], "maximum recursion depth exceeded\n"⟩ }

def give (answer : Answer) : IO UInt32 := do
  IO.eprint (String.ofList answer.errors)
  IO.print (String.ofList answer.output)
  return answer.exitCode.toUInt32

def refuse : IO UInt32 := do
  IO.eprintln "Usage: [--version] [-v] (parse | compile --scope SCOPE | validate) FILE"
  return 2

def main (arguments : List String) : IO UInt32 := do
  let host ← thisHost
  match Request.ofArguments? (arguments.map String.toList) with
  | none => refuse
  | some .version => give (.version host)
  | some (.run invocation) =>
      match ← entryAt? invocation.file with
      | none => refuse
      | some entry => give (invocation.answer host entry)
