import ScopedMarkup.CommandLine.Answer
import ScopedMarkup.Proofs.Lint.Position
import ScopedMarkup.Proofs.Markup.Depth
import ScopedMarkup.Proofs.Markup.Marking

/-! # What compiling reports and prints of style sheets

A tree that is scoped is reported once, with the counts of a walk over it, and a tree that
is not scoped is not reported. Of a scoped tree the sheets can be printed alone: the text of
each sheet on the walk, scoped on its own, as the host writes it.
-/

namespace ScopedMarkup

/-! ## Texts that the host writes -/

namespace CommandLine.Host

variable {host : Host}

theorem written_of_terminal (terminal : host.outputTerminal = true) (text : Text) :
    host.written text = text := by
  rw [written, terminal]
  exact host.echo.written_terminal text

/-- Texts that are written one by one come out as they are on a terminal, and elsewhere if
there is no escape character in them. -/
theorem flatMap_written {texts : List Text}
    (plain : host.outputTerminal = true ∨ ∀ text ∈ texts, '\x1b' ∉ text) :
    texts.flatMap host.written = texts.flatten := by
  have same : ∀ text ∈ texts, host.written text = text := by
    intro text member
    cases plain with
    | inl terminal => exact written_of_terminal terminal text
    | inr absent => exact host.echo.written_of_not_mem _ text (absent text member)
  rw [List.flatMap_def, List.map_congr_left same, List.map_id']

end CommandLine.Host

/-! ## The texts of scoped sheets -/

namespace Css.Sheet

variable {room : Nat} {scope : Text} {config : Config} {sheet : Sheet Selector}

/-- The sheet can be scoped, and its virtual sheet has this text. -/
def ScopesTo (room : Nat) (scope : Text) (config : Config) (sheet : Sheet Selector)
    (text : Text) : Prop :=
  ∃ result, sheet.evaluate room scope config = .ok result ∧ result.write = .ok text

theorem write_virtual_of_accepted
    (accepted : Rule.faultIn? config.maxDepth 0 sheet.rules = none) :
    (sheet.map (Selector.spelling scope config)).virtual.write =
      .ok (sheet.map (Selector.spelling scope config)).renderScoped := by
  have rulesOnly := (faultIn?_eq_none_iff_scopable.mp accepted).rulesOnly
  rw [write_virtual, writeScoped, Sheet.unprintable?, map, Rule.unprintableIn?_mapAll, rulesOnly]

theorem scopesTo_of_accepted (nonempty : scope ≠ [])
    (accepted : Rule.faultIn? config.maxDepth 0 sheet.rules = none) (fits : sheet.calls ≤ room) :
    sheet.ScopesTo room scope config (sheet.map (Selector.spelling scope config)).renderScoped :=
  ⟨_, (evaluate_runs nonempty room sheet config).eq_ok_iff.mpr ⟨accepted, fits, rfl⟩,
    write_virtual_of_accepted accepted⟩

end Css.Sheet

namespace Markup.Node

/-! ## The sheets on a walk -/

theorem accepted_of_mem_sheets {node : Node Css.Selector} {limit : Nat}
    (accepted : node.fault? limit = none) {sheet : Css.Sheet Css.Selector}
    (member : sheet ∈ node.walk.filterMap sheet?) :
    Css.Rule.faultIn? limit 0 sheet.rules = none := by
  rcases List.mem_filterMap.mp member with ⟨below, visited, found⟩
  rw [fault?_eq_findSome?, List.findSome?_eq_none_iff] at accepted
  have own := accepted below visited
  cases below <;> cases found
  exact own

mutual
theorem calls_lt_of_mem_sheets {sheet : Css.Sheet Css.Selector} :
    ∀ node : Node Css.Selector, sheet ∈ node.walk.filterMap sheet? → sheet.calls < node.calls
  | .element _ _ children, member | .fragment children, member =>
      Nat.lt_add_right 2 (calls_lt_of_mem_sheetsIn children member)
  | .style _ _, member => by
      rw [List.mem_singleton.mp member]
      exact Nat.lt_succ_self _

/-- A sheet takes fewer calls than the nodes that it is in. -/
theorem calls_lt_of_mem_sheetsIn {sheet : Css.Sheet Css.Selector} :
    ∀ nodes : List (Node Css.Selector),
      sheet ∈ (walkAll nodes).filterMap sheet? → sheet.calls < callsIn nodes
  | node :: rest, member => by
      rw [walkAll, List.filterMap_append, List.mem_append] at member
      rcases member with here | later
      · exact Nat.lt_of_lt_of_le (calls_lt_of_mem_sheets node here) (Nat.le_max_left ..)
      · exact Nat.lt_of_lt_of_le (calls_lt_of_mem_sheetsIn rest later) (Nat.le_max_right ..)
end

end Markup.Node

/-! ## What is reported and printed -/

namespace CommandLine

open Markup

variable {host : Host} {node : Node Css.Selector} {scope : Text} {config : Config}

/-- What comes of a tree that is refused: an error, and nothing in the log. -/
structure Refuses (host : Host) (node : Node Css.Selector) (scope : Text) (config : Config)
    (error : Css.ScopeError) : Prop where
  logging : node.evaluateLogging host.room scope config = (.error (.refused error), [])
  answer : ∀ verbose sheetsOnly source, Markup.read config source = .ok node →
    compileAnswer host verbose config scope sheetsOnly source =
      .failure host ("Evaluation error: " ++ error.message)

/-- What comes of a tree that is scoped, where these texts are those of the sheets. -/
structure Compiles (host : Host) (node : Node Css.Selector) (scope : Text) (config : Config)
    (result : Node.Evaluated) (texts : List Text) : Prop where
  /-- A traversal with a stack visits what the walk does. -/
  walk : ∀ visited, Traverses Node.children [node] visited ↔ visited = node.walk
  /-- The walk over the virtual tree comes to the same nodes, each of them scoped. -/
  kept : result.tree.walk = node.walk.map (Node.scopedTree scope config)
  /-- One message is logged, with the counts of the walk. -/
  logging : node.evaluateLogging host.room scope config =
    (.ok result.tree, [(Tally.ofNodes node.walk).message scope])
  /-- The texts are those of the sheets on the walk, each scoped on its own. -/
  sheets : List.Forall₂ (Css.Sheet.ScopesTo host.room scope config)
    (node.walk.filterMap Node.sheet?) texts
  /-- The texts are written one after the other. -/
  output : sheetsOutput host result.tree = texts.flatMap host.written
  answer : ∀ verbose source, Markup.read config source = .ok node →
    compileAnswer host verbose config scope true source =
      ⟨0, sheetsOutput host result.tree,
        if verbose then logLine ((Tally.ofNodes node.walk).message scope) else []⟩
  exact : (host.outputTerminal = true ∨ ∀ text ∈ texts, '\x1b' ∉ text) →
    sheetsOutput host result.tree = texts.flatten

theorem refuses_of_evaluate {error : Css.ScopeError}
    (failed : node.evaluate host.room scope config = .error (.refused error)) :
    Refuses host node scope config error where
  logging := by rw [Node.evaluateLogging_eq, failed]
  answer verbose sheetsOnly source read := by
    simp only [compileAnswer, Markup.compile, read, failed]

/-- The texts that the sheets on the walk are scoped to. -/
def sheetTexts (node : Node Css.Selector) (scope : Text) (config : Config) : List Text :=
  (node.walk.filterMap Node.sheet?).map fun sheet =>
    (sheet.map (Css.Selector.spelling scope config)).renderScoped

theorem sheets_scopedTree (node : Node Css.Selector) (scope : Text) (config : Config) :
    (Node.scopedTree scope config node).sheets =
      (node.walk.filterMap Node.sheet?).map fun sheet =>
        (sheet.map (Css.Selector.spelling scope config)).virtual := by
  rw [Node.scopedTree, Node.sheets_virtual, Node.walk_mark, List.filterMap_map]
  simp only [Function.comp_def, Node.sheet?_mark, ← List.map_filterMap, List.map_map]

theorem compiles_of_evaluate {result : Node.Evaluated}
    (succeeded : node.evaluate host.room scope config = .ok result) :
    Compiles host node scope config result (sheetTexts node scope config) := by
  rcases Node.evaluate_eq_ok_iff.mp succeeded with ⟨nonempty, accepted, fits, rfl⟩
  have accepts : ∀ sheet ∈ node.walk.filterMap Node.sheet?,
      Css.Rule.faultIn? config.maxDepth 0 sheet.rules = none :=
    fun _ => Node.accepted_of_mem_sheets accepted
  have scopes : ∀ sheet ∈ node.walk.filterMap Node.sheet?,
      sheet.ScopesTo host.room scope config
        (sheet.map (Css.Selector.spelling scope config)).renderScoped := by
    intro sheet member
    have fewer := Node.calls_lt_of_mem_sheets node member
    exact Css.Sheet.scopesTo_of_accepted nonempty (accepts sheet member) (by omega)
  have output : sheetsOutput host (Node.scopedTree scope config node) =
      (sheetTexts node scope config).flatMap host.written := by
    rw [sheetsOutput, sheets_scopedTree, sheetTexts, List.flatMap_map, List.flatMap_map]
    refine List.flatMap_congr fun sheet member => ?_
    rw [Css.Sheet.write_virtual_of_accepted (accepts sheet member)]
    rfl
  exact {
    walk := fun _ => Lint.traverses_walk_iff
    kept := by
      rw [Node.scopedTree, Node.walk_virtual, Node.walk_mark, List.map_map]
      rfl
    logging := by rw [Node.evaluateLogging_eq, succeeded]
    sheets := List.forall₂_map_right_iff.mpr (List.forall₂_same.mpr scopes)
    output
    answer := by
      intro verbose source read
      simp only [compileAnswer, Markup.compile, read, succeeded, if_true, List.flatMap_singleton]
    exact := fun plain => by rw [output, Host.flatMap_written plain] }

/-- A tree is scoped as a whole or not at all. What is refused leaves an error alone. What
is scoped is reported once, with the counts of the walk over the tree, and its sheets are
printed in the order of the walk. -/
theorem compile_follows_walk (host : Host) (node : Node Css.Selector) (scope : Text)
    (config : Config) :
    (∀ error, node.evaluate host.room scope config = .error (.refused error) →
      Refuses host node scope config error) ∧
    ∀ result, node.evaluate host.room scope config = .ok result →
      ∃ texts, Compiles host node scope config result texts :=
  ⟨fun _ => refuses_of_evaluate, fun _ succeeded => ⟨_, compiles_of_evaluate succeeded⟩⟩

/-- Style elements next to each other and nested, and a node that cannot be scoped. -/
theorem compile_follows_walk_nested :
    (∃ texts, Compiles ⟨.stripping, false, false, 1000, ⟨1, [], []⟩⟩
      (.fragment [.style [] ⟨[.charset "a"]⟩, .element "p" [] [.slot "b",
        .style [] ⟨[.fontFace [], .style (.simple (.type "c")) []]⟩]]) "x" .standard
      ⟨.fragment [.style [] ⟨[.charset "a"]⟩, .element "p" [⟨"data-pc-x", none⟩]
          [.slot "b", .style [] ⟨[.fontFace [], .style "c[data-pc-x]" []]⟩]],
        ["Compiled scope=x elements=1 style_elements=2 rules=3"]⟩ texts) ∧
    Refuses ⟨.stripping, false, false, 1000, ⟨1, [], []⟩⟩
      (.element "p" [] [.style [] ⟨[.charset "a"]⟩, .foreign ⟨"Other", "Other()"⟩]) "x" .standard
      (.unsupportedNode "Other") :=
  ⟨(compile_follows_walk _ _ "x" .standard).2 _ rfl,
    (compile_follows_walk _ _ "x" .standard).1 _ rfl⟩

/-- Where the output is no terminal and the scope holds a control sequence, what is printed
is not the text of the sheet. -/
theorem exists_output_ne_text :
    ∃ host node sheet text,
      host.outputTerminal = false ∧
      Markup.read .standard "<style>b\x7b\x7d</style>" = .ok node ∧
      node.walk.filterMap Node.sheet? = [sheet] ∧
      Css.Sheet.ScopesTo host.room "\x1b[31m" .standard sheet text ∧
      text = ("b[data-pc-\x1b[31m] \x7b\n\x7d\n" : Text) ∧
      (compileAnswer host false .standard "\x1b[31m" true "<style>b\x7b\x7d</style>").output ≠
        text := by
  refine ⟨⟨.stripping, false, false, 1000, ⟨1, [], []⟩⟩, .style [] ⟨[.style (.simple (.type "b"))
    []]⟩, ⟨[.style (.simple (.type "b")) []]⟩, _, rfl, ?_, rfl,
    ⟨⟨[.style "b[data-pc-\x1b[31m]" []]⟩, rfl, rfl⟩, rfl, ?_⟩
  · decide +kernel
  · decide +kernel

end CommandLine

end ScopedMarkup
