import ScopedMarkup.Text.Basic

namespace ScopedMarkup

/-! A tree built by hand may hold a value of another kind where a node, a rule
or a selector belongs. Reading never makes one. Such a value is kept by the name
of its kind and its written form, so that the tree can be given back; what needs
a value of the right kind reports that name. -/

structure Foreign where
  kind : Text
  written : Text
deriving DecidableEq, Repr

/-- A foreign value that cannot be printed, by what should stand there. -/
inductive Unprintable where
  | selector (kind : Text)
  | rule (kind : Text)
  | node (kind : Text)
deriving DecidableEq, Repr

def Unprintable.message : Unprintable → Text
  | .selector kind => "Unknown selector type: " ++ kind
  | .rule kind => "Unknown rule type: " ++ kind
  | .node kind => "Unknown node type: " ++ kind

end ScopedMarkup
