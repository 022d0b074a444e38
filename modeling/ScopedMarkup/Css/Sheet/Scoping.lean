import ScopedMarkup.Css.Selector.Scoping
import ScopedMarkup.Css.Sheet.Basic

namespace ScopedMarkup.Css

/-! A scoped sheet has the rules of the sheet with each selector marked and
written as text. Conditional rules may nest to the limit, those without a body
included. -/

namespace Rule

mutual
/-- The first reason, in the order of the text, why rules at a depth cannot
be scoped. -/
def fault? (limit depth : Nat) : Rule Selector → Option ScopeError
  | .style selector _ => selector.fault? limit 0
  | .conditional _ _ rules =>
      if depth + 1 > limit then some (.rulesTooDeep limit) else faultIn? limit (depth + 1) rules
  | .foreign value => some (.unsupportedRule value.kind)
  | .charset _ | .nameSpace _ | .fontFace _ | .page .. | .keyframes .. => none

def faultIn? (limit depth : Nat) : List (Rule Selector) → Option ScopeError
  | [] => none
  | rule :: rest => (fault? limit depth rule).or (faultIn? limit depth rest)
end

end Rule

namespace Sheet

def scope (sheet : Sheet Selector) (scope : Text) (config : Config) :
    Except ScopeError (Sheet Text) :=
  if scope = [] then .error .emptyScope
  else match Rule.faultIn? config.maxDepth 0 sheet.rules with
    | some error => .error error
    | none => .ok (sheet.map fun selector => (selector.mark (config.marker scope)).render)

end Sheet

end ScopedMarkup.Css
