import ScopedMarkup.Text.Basic

namespace ScopedMarkup.Lint

/-! Findings about a component. -/

inductive Severity where
  | error
  | warning
  | info
deriving DecidableEq, Repr

namespace Severity

def name : Severity → Text
  | .error => "ERROR"
  | .warning => "WARNING"
  | .info => "INFO"

/-- The most severe comes first. -/
def rank : Severity → Nat
  | .error => 0
  | .warning => 1
  | .info => 2

def all : List Severity := [.error, .warning, .info]

def ofName? (name : Text) : Option Severity := all.find? fun severity => severity.name = name

end Severity

/-- The path holds the tags from the top down to the node that is meant. -/
structure Finding where
  rule : Text
  severity : Severity
  message : Text
  path : List Text
  fix : Option Text
deriving DecidableEq, Repr

namespace Finding

def isError (finding : Finding) : Bool := finding.severity = .error

def isWarning (finding : Finding) : Bool := finding.severity = .warning

def location (finding : Finding) : Text := Text.join " > " finding.path

def render (finding : Finding) : Text :=
  let place : Text := if finding.path = [] then [] else " [" ++ finding.location ++ "]"
  finding.severity.name ++ place ++ ": " ++ finding.message

/-- The findings with the most severe first; those of one severity keep their
order. -/
def bySeverity (findings : List Finding) : List Finding :=
  Severity.all.flatMap fun severity => findings.filter fun finding => finding.severity = severity

def count (severity : Severity) (findings : List Finding) : Nat :=
  (findings.filter fun finding => finding.severity = severity).length

end Finding

end ScopedMarkup.Lint
