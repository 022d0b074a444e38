import ScopedMarkup.Css.Selector.Basic
import ScopedMarkup.Lint.Finding
import ScopedMarkup.Markup.Query
import ScopedMarkup.Text.Blank

namespace ScopedMarkup.Lint

/-! Checks look at the nodes of a tree in the order of its text, each with the
tags of the elements around it. -/

open ScopedMarkup.Markup

/-- A node and the tags of the elements around it, from the top down. -/
structure PlacedNode (σ : Type) where
  node : Node σ
  around : List Text

namespace PlacedNode

/-- The tags down to the node itself. -/
def path (placed : PlacedNode σ) : List Text := placed.around ++ placed.node.tag?.toList

end PlacedNode

mutual
def placedNodes (around : List Text) : Node σ → List (PlacedNode σ)
  | .element tag attributes children =>
      ⟨.element tag attributes children, around⟩ :: placedNodesIn (around ++ [tag]) children
  | .fragment children => ⟨.fragment children, around⟩ :: placedNodesIn around children
  | .text value => [⟨.text value, around⟩]
  | .slot script => [⟨.slot script, around⟩]
  | .style attributes sheet => [⟨.style attributes sheet, around⟩]
  | .foreign value => [⟨.foreign value, around⟩]

def placedNodesIn (around : List Text) : List (Node σ) → List (PlacedNode σ)
  | [] => []
  | node :: rest => placedNodes around node ++ placedNodesIn around rest
end

/-- The names that stand in a list for the second time, in the order of these
second places. -/
def repeatedAfter (before : List Text) : List Text → List Text
  | [] => []
  | name :: rest =>
      let more := repeatedAfter (before ++ [name]) rest
      if before.count name = 1 then name :: more else more

def repeatedNames (names : List Text) : List Text := repeatedAfter [] names

example : repeatedNames ["a", "b", "b", "a", "b"] = [("b" : Text), ("a" : Text)] := by decide

/-- A named check. -/
structure Check where
  name : Text
  findings : Node Css.Selector → List Finding

namespace Check

/-- Each name that an element's attributes repeat. -/
def duplicateAttributes : Check where
  name := "check_duplicate_attributes"
  findings node :=
    (placedNodes [] node).flatMap fun placed =>
      match placed.node.tag? with
      | none => []
      | some tag =>
          (repeatedNames (placed.node.attributes.map Attribute.name)).map fun name =>
            { rule := "check_duplicate_attributes"
              severity := .warning
              message := "Attribute '" ++ name ++ "' is set more than once on <" ++ tag ++ ">."
              path := placed.path
              fix := some ("Remove the repeated '" ++ name ++ "' attribute.") }

/-- Each slot without an expression. -/
def emptySlots : Check where
  name := "check_empty_slots"
  findings node :=
    (placedNodes [] node).filterMap fun placed =>
      match placed.node with
      | .slot script =>
          if Text.trim script = [] then
            some
              { rule := "check_empty_slots"
                severity := .warning
                message := "Empty slot '\x7b\x7b\x7d\x7d' renders nothing."
                path := placed.around
                fix := some "Put an expression inside the slot or remove it." }
          else none
      | _ => none

/-- Each style element inside another element. -/
def nestedStyleElements : Check where
  name := "check_nested_style_elements"
  findings node :=
    (placedNodes [] node).filterMap fun placed =>
      if placed.node.isStyle && placed.around ≠ [] then
        some
          { rule := "check_nested_style_elements"
            severity := .info
            message := "<style> is nested inside another element; its rules still apply to the whole component."
            path := placed.path
            fix := some "Move the <style> element to the top level." }
      else none

/-- Each import that names no source. -/
def importSource : Check where
  name := "check_import_src"
  findings node :=
    (placedNodes [] node).filterMap fun placed =>
      match placed.node with
      | .element tag _ _ =>
          if tag = ("import" : Text) && !placed.node.hasAttribute "src" then
            some
              { rule := "check_import_src"
                severity := .error
                message := "<import> is missing its 'src' attribute."
                path := placed.path
                fix := some "Add src=\"...\" pointing at the imported component." }
          else none
      | _ => none

/-- All checks, in the order in which they are run. -/
def all : List Check := [duplicateAttributes, emptySlots, nestedStyleElements, importSource]

/-- The names of the checks whose warnings count as errors in strict linting. -/
def strictNames : List Text := [duplicateAttributes.name]

def ofName? (name : Text) : Option Check := all.find? fun check => check.name = name

end Check

end ScopedMarkup.Lint
