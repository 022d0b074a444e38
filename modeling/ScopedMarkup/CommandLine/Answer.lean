import ScopedMarkup.CommandLine.Host
import ScopedMarkup.CommandLine.Outline
import ScopedMarkup.CommandLine.Request
import ScopedMarkup.Lint.Validation
import ScopedMarkup.Markup.Evaluation
import ScopedMarkup.Text.Newlines

namespace ScopedMarkup.CommandLine

/-! What a command prints, and the code it exits with. -/

open ScopedMarkup.Markup

/-- The name that the program goes by. -/
def programName : Text := "stencil"

namespace Answer

def success (output : Text) : Answer := ⟨0, output, []⟩

def failure (host : Host) (reason : Text) : Answer := ⟨1, [], host.errorLine reason⟩

def unreadable (host : Host) (error : Error) : Answer :=
  failure host ("Parse error: " ++ error.message)

def version (host : Host) : Answer := success (host.line (programName ++ ", version 0.1.0"))

/-- The answer with its texts as they are captured. -/
def captured (answer : Answer) : Answer :=
  ⟨answer.exitCode, answer.output.joinReturns, answer.errors.joinReturns⟩

end Answer

/-- The line that the log shows for a message. -/
def logLine (message : Text) : Text :=
  "DEBUG " ++ programName ++ ".compiler: " ++ message ++ ['\n']

def parseAnswer (host : Host) (strict : Bool) (source : Text) : Answer :=
  match Markup.read (.standardWith strict) source with
  | .error error => .unreadable host error
  | .ok node => .success (host.lines (outline [] node))

/-- A text that was made. What scoping makes holds no foreign value, so there is
one. -/
def madeText (text : Except Unprintable Text) : Text := text.toOption.getD []

/-- The text of all sheets in a virtual tree, each written on its own. -/
def sheetsOutput (host : Host) (tree : VirtualNode) : Text :=
  tree.sheets.flatMap fun sheet => host.written (madeText sheet.write)

def compileAnswer (host : Host) (verbose : Bool) (config : Config) (scope : Text)
    (sheetsOnly : Bool) (source : Text) : Answer :=
  match Markup.compile host.room config source scope with
  | .error (.read error) => .unreadable host error
  | .error (.halt (.refused error)) => .failure host ("Evaluation error: " ++ error.message)
  | .error (.halt .outOfStack) => host.exhausted
  | .ok ⟨tree, log⟩ =>
      let output :=
        if sheetsOnly then sheetsOutput host tree else host.line (madeText tree.write)
      ⟨0, output, if verbose then log.flatMap logLine else []⟩

/-- The last name in a path. -/
def fileName (path : Text) : Text :=
  (path.reverse.takeWhile (· ≠ '/')).reverse

/-- The lines of a finding. -/
def findingLines (fixes : Bool) (finding : Lint.Finding) : List Text :=
  match fixes, finding.fix with
  | true, some fix => if fix = [] then [finding.render] else [finding.render, "  fix: " ++ fix]
  | _, _ => [finding.render]

/-- The last line of a report. -/
def summary (findings : List Lint.Finding) : Text :=
  "Summary: " ++ Text.ofNat (Lint.Finding.count .error findings) ++ " error(s), " ++
    Text.ofNat (Lint.Finding.count .warning findings) ++ " warning(s), " ++
    Text.ofNat (Lint.Finding.count .info findings) ++ " info"

def validateAnswer (host : Host) (strict fixes : Bool) (ignored : List Text)
    (file source : Text) : Answer :=
  match Markup.read .standard source with
  | .error error => .unreadable host error
  | .ok node =>
      match Lint.Finding.bySeverity (Lint.validate { strict, ignored } node) with
      | [] => .success (host.line ("OK: " ++ fileName file ++ " is valid (0 diagnostics)"))
      | finding :: more =>
          let findings := finding :: more
          let exitCode := if findings.any Lint.Finding.isError then 1 else 0
          let texts := findings.flatMap (findingLines fixes) ++ [[], summary findings]
          ⟨exitCode, host.lines texts, []⟩

/-- What a path leads to. -/
inductive Entry where
  | file (content : Text)
  /-- Something that cannot be read as a text, such as a folder. -/
  | unreadable
deriving DecidableEq, Repr

/-- The answer to an invocation, given what its path leads to. Nothing is printed
about what cannot be read. -/
def Invocation.answer (host : Host) (invocation : Invocation) : Entry → Answer
  | .unreadable => ⟨1, [], []⟩
  | .file content =>
      let source := content.unifyNewlines
      match invocation.command with
      | .parse strict => parseAnswer host strict source
      | .compile config scope sheetsOnly =>
          compileAnswer host invocation.verbose config scope sheetsOnly source
      | .validate strict fixes ignored =>
          validateAnswer host strict fixes ignored invocation.file source

end ScopedMarkup.CommandLine
