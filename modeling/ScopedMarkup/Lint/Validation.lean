import ScopedMarkup.Lint.Check

namespace ScopedMarkup.Lint

/-! All checks together. Checks can be left out by name, further ones can be
added, and strict linting takes some warnings for errors. -/

open ScopedMarkup.Markup

structure Options where
  strict : Bool := false
  /-- The names of the checks that are left out. -/
  ignored : List Text := []
  /-- Checks that are run after the others. -/
  extra : List Check := []

/-- A finding as strict linting reports it. -/
def Finding.escalate (finding : Finding) : Finding :=
  if Check.strictNames.contains finding.rule && finding.isWarning then
    { finding with severity := .error }
  else finding

/-- The findings of all checks that are not left out, in the order of the
checks. -/
def validate (options : Options) (node : Node Css.Selector) : List Finding :=
  let checks := (Check.all ++ options.extra).filter fun check =>
    !options.ignored.contains check.name
  let findings := checks.flatMap fun check => check.findings node
  if options.strict then findings.map Finding.escalate else findings

/-- A component with errors, and those errors. -/
structure Invalid where
  errors : List Finding
deriving DecidableEq, Repr

def Invalid.message (invalid : Invalid) : Text :=
  "Validation failed with " ++ Text.ofNat invalid.errors.length ++ " error(s): " ++
    Text.join "; " (invalid.errors.map Finding.render)

/-- The findings, unless there is an error among them. -/
def requireValid (options : Options) (node : Node Css.Selector) :
    Except Invalid (List Finding) :=
  let findings := validate options node
  match findings.filter Finding.isError with
  | [] => .ok findings
  | error :: more => .error ⟨error :: more⟩

end ScopedMarkup.Lint
