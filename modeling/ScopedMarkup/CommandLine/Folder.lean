import ScopedMarkup.CommandLine.Answer

namespace ScopedMarkup.CommandLine

/-! A folder of files, in which a command line is answered. Of the folders around
it nothing is known but that they are there. -/

/-- Files by their path from the folder. -/
abbrev Folder := List (Text × Text)

/-- The parts of a path between its slashes. -/
def pathParts (path : Text) : List Text :=
  path.foldr (fun character (parts : List Text) =>
      match character, parts with
      | '/', parts => [] :: parts
      | character, [] => [[character]]
      | character, part :: more => (character :: part) :: more) [[]]

example : pathParts "./a//b.pc" = [("." : Text), "a", [], "b.pc"] := by decide

/-- A part that leads nowhere else. -/
def staysThere (part : Text) : Bool := part = [] || part = ['.']

/-- The names in the path of a file. -/
def pathNames (path : Text) : List Text := (pathParts path).filter fun part => !staysThere part

/-- Where a path leads: down these names, or to a folder around. -/
inductive Reached where
  | inside (names : List Text)
  | around
deriving DecidableEq, Repr

namespace Folder

/-- Whether these names lead to a folder. -/
def holdsFolder (folder : Folder) (names : List Text) : Bool :=
  names = [] || folder.any fun file =>
    let whole := pathNames file.1
    names.isPrefixOf whole && names.length < whole.length

/-- Where the parts of a path lead from a place. Only a folder can be gone on
from. -/
def follow? (folder : Folder) : Reached → List Text → Option Reached
  | reached, [] => some reached
  | .around, part :: rest =>
      if staysThere part || part = ['.', '.'] then follow? folder .around rest else none
  | .inside names, part :: rest =>
      if !folder.holdsFolder names then none
      else if staysThere part then follow? folder (.inside names) rest
      else if part = ['.', '.'] then
        follow? folder (if names = [] then .around else .inside names.dropLast) rest
      else follow? folder (.inside (names ++ [part])) rest

/-- What a path leads to. A path that begins with a slash begins at the
outermost folder. A path with a null character cannot be read. -/
def entry? (folder : Folder) (path : Text) : Option Entry := do
  if path = [] then none
  if path.contains '\x00' then return .unreadable
  let start : Reached := if path.head? = some '/' then .around else .inside []
  match ← folder.follow? start (pathParts path) with
  | .around => some .unreadable
  | .inside names =>
      if folder.holdsFolder names then some .unreadable
      else (folder.find? fun file => pathNames file.1 = names).map fun file => .file file.2

example : entry? [("a.pc", "b")] "./a.pc" = some (.file "b") := by decide

example : entry? [("a.pc", "b")] "a.pc/." = none := by decide

/-- The captured answer to arguments; nothing if they cannot be understood, or
name what does not exist. -/
def answer? (host : Host) (folder : Folder) (arguments : List Text) : Option Answer := do
  match ← Request.ofArguments? arguments with
  | .version => return (Answer.version host).captured
  | .run invocation => return (invocation.answer host (← folder.entry? invocation.file)).captured

end Folder

end ScopedMarkup.CommandLine
