import ScopedMarkup.Proofs.Css.Sheet.Depth
import ScopedMarkup.Proofs.Markup.Marking
import ScopedMarkup.Proofs.Markup.Piece
import ScopedMarkup.Proofs.Markup.Room
import ScopedMarkup.Proofs.Markup.RoundTrip

/-! # What scoping may refuse in a source

Reading makes no foreign nodes, and the sheets in a tree that was read hold no foreign
values either. So only nesting can keep a source that was read from being scoped.
-/

namespace ScopedMarkup.Markup

namespace Node

variable {σ : Type} {limit : Nat}

/-! ## The fault of a tree -/

/-- The fault of a node apart from those of the nodes below it. -/
def ownFault? (limit : Nat) : Node Css.Selector → Option Css.ScopeError
  | .style _ sheet => Css.Rule.faultIn? limit 0 sheet.rules
  | .foreign value => some (.unsupportedNode value.kind)
  | .text _ | .slot _ | .element .. | .fragment _ => none

mutual
/-- The fault of a tree is the first on the walk over its nodes. -/
theorem fault?_eq_findSome? : ∀ node : Node Css.Selector,
    node.fault? limit = node.walk.findSome? (ownFault? limit)
  | .element tag attributes children => by
      rw [fault?, faultIn?_eq_findSome? children, walk]
      rfl
  | .fragment children => by
      rw [fault?, faultIn?_eq_findSome? children, walk]
      rfl
  | .text _ | .slot _ | .foreign _ => rfl
  | .style attributes sheet => by
      rw [walk, List.findSome?_singleton]
      rfl

theorem faultIn?_eq_findSome? : ∀ nodes : List (Node Css.Selector),
    faultIn? limit nodes = (walkAll nodes).findSome? (ownFault? limit)
  | [] => rfl
  | node :: rest => by
      rw [faultIn?, fault?_eq_findSome? node, faultIn?_eq_findSome? rest, walkAll,
        List.findSome?_append]
end

/-! ## Reading makes no foreign nodes -/

/-- The node is not foreign, and nothing in a sheet is. -/
def Native : Node Css.Selector → Prop
  | .style _ sheet => sheet.Native
  | .foreign _ => False
  | .text _ | .slot _ | .element .. | .fragment _ => True

theorem everywhere_concat_iff {holds : Node σ → Prop} {nodes : List (Node σ)} {node : Node σ} :
    Everywhere holds (nodes ++ [node]) ↔
      Everywhere holds nodes ∧ ∀ below ∈ node.walk, holds below := by
  induction nodes with
  | nil => rw [List.nil_append, everywhere_cons_iff, and_comm]
  | cons first nodes induction =>
      rw [List.cons_append, everywhere_cons_iff, induction, everywhere_cons_iff, and_assoc]

end Node

variable {config : Config} {text rest : Text} {openTags : List Text} {piece : Piece}

/-- A node that was read as a whole is not foreign, nor is anything in it. -/
def Piece.Native : Piece → Prop
  | .whole node => ∀ below ∈ node.walk, below.Native
  | .opening .. | .closing => True

theorem Piece.native_style {attributes : List Attribute} {sheet : Css.Sheet Css.Selector}
    (native : sheet.Native) : (Piece.whole (.style attributes sheet)).Native := by
  intro below member
  rw [List.mem_singleton.mp member]
  exact native

theorem native_of_readElement (read : readElement config text = .ok (piece, rest)) :
    piece.Native := by
  cases elementRead_of_readElement read with
  | emptyStyle => exact Piece.native_style Css.Sheet.native_empty
  | style _ _ _ _ readSheet => exact Piece.native_style (Css.Sheet.native_of_read readSheet)
  | empty => exact Node.forall_walk_element_iff.mpr ⟨trivial, Node.everywhere_nil⟩
  | opening => trivial

theorem native_of_readPiece (read : readPiece config openTags text = .ok (piece, rest)) :
    piece.Native := by
  cases pieceRead_of_readPiece read with
  | element _ _ element => exact native_of_readElement element
  | closing => trivial
  | slot | text => exact List.forall_mem_singleton.mpr trivial

structure Progress.Native (progress : Progress) : Prop where
  around : ∀ outer ∈ progress.around, Node.Everywhere Node.Native outer.before
  inside : Node.Everywhere Node.Native progress.inside

theorem Progress.native_start : Progress.start.Native :=
  ⟨List.forall_mem_nil _, Node.everywhere_nil⟩

theorem Progress.Native.add {progress : Progress} (native : progress.Native)
    (added : piece.Native) : (progress.add piece).Native := by
  rcases progress with ⟨around, inside⟩
  cases piece with
  | whole node => exact ⟨native.around, Node.everywhere_concat_iff.mpr ⟨native.inside, added⟩⟩
  | opening tag attributes =>
      exact ⟨List.forall_mem_cons.mpr ⟨native.inside, native.around⟩, Node.everywhere_nil⟩
  | closing =>
      cases around with
      | nil => exact native
      | cons outer around =>
          rcases List.forall_mem_cons.mp native.around with ⟨before, further⟩
          exact ⟨further, Node.everywhere_concat_iff.mpr
            ⟨before, Node.forall_walk_element_iff.mpr ⟨trivial, native.inside⟩⟩⟩

/-- Nothing that reading comes to is foreign. -/
theorem Reached.native {source : Text} {progress : Progress}
    (reached : Reached config source progress text) : progress.Native := by
  induction reached with
  | start => exact Progress.native_start
  | piece _ _ readOne induction => exact induction.add (native_of_readPiece readOne)

theorem native_of_read {source : Text} {tree : Node Css.Selector}
    (found : read config source = .ok tree) : ∀ below ∈ tree.walk, below.Native := by
  rcases exists_reached_of_read found with ⟨last, rest, reached, -, rfl⟩
  exact (Node.forall_walk_ofTop_iff trivial).mpr reached.native.inside

/-! ## Scoping what was read -/

namespace Node

/-- The sheet of some style element nests deeper than the limit. -/
def NestsDeeper (limit : Nat) (tree : Node Css.Selector) : Prop :=
  ∃ attributes sheet, .style attributes sheet ∈ tree.walk ∧ Css.Sheet.NestsDeeper limit sheet

variable {tree : Node Css.Selector}

theorem fault?_eq_none_iff_of_native (native : ∀ below ∈ tree.walk, below.Native) :
    tree.fault? limit = none ↔ ¬ tree.NestsDeeper limit := by
  rw [fault?_eq_findSome?, List.findSome?_eq_none_iff]
  constructor
  · rintro accepted ⟨attributes, sheet, member, deeper⟩
    exact (native _ member).faultIn?_eq_none_iff.mp (accepted _ member) deeper
  · intro shallow below member
    cases below with
    | style attributes sheet =>
        exact (native _ member).faultIn?_eq_none_iff.mpr fun deeper =>
          shallow ⟨attributes, sheet, member, deeper⟩
    | foreign value => exact (native _ member).elim
    | text _ | slot _ | element _ _ _ | fragment _ => rfl

theorem tooDeep_of_native (native : ∀ below ∈ tree.walk, below.Native) {error : Css.ScopeError}
    (found : tree.fault? limit = some error) :
    error = .selectorTooDeep limit ∨ error = .rulesTooDeep limit := by
  rw [fault?_eq_findSome?] at found
  rcases List.exists_of_findSome?_eq_some found with ⟨below, member, own⟩
  cases below with
  | style attributes sheet => exact (native _ member).tooDeep_of_faultIn? own
  | foreign value => exact (native _ member).elim
  | text _ | slot _ | element _ _ _ | fragment _ => cases own

end Node

/-- The scoping of a tree that was read ends where there is room for its calls, and where there
is room for as many as any such tree takes under the limit. If it ends, it is refused just when
a sheet in the tree nests deeper than the limit, and then the error says so. -/
theorem evaluate_of_read {room : Nat} {source scope : Text} {tree : Node Css.Selector}
    (found : read config source = .ok tree) (nonempty : scope ≠ []) :
    (tree.calls < room ∨ 9 * config.maxDepth + 13 ≤ room →
      Css.Ends (tree.evaluate room scope config)) ∧
    (Css.Ends (tree.evaluate room scope config) →
      ((∃ error, tree.evaluate room scope config = .error (.refused error)) ↔
        tree.NestsDeeper config.maxDepth) ∧
      ((∃ result, tree.evaluate room scope config = .ok result) ↔
        ¬ tree.NestsDeeper config.maxDepth)) ∧
    ∀ error, tree.evaluate room scope config = .error (.refused error) →
      error = .selectorTooDeep config.maxDepth ∨ error = .rulesTooDeep config.maxDepth := by
  have native := native_of_read found
  have runs := Node.evaluate_runs nonempty room tree config
  refine ⟨?_, fun ends => ?_, fun error failed =>
    Node.tooDeep_of_native native (runs.eq_of_refused failed)⟩
  · rintro (fits | enough)
    · exact runs.ends fits
    · exact ends_evaluate_of_read found enough scope
  · rw [runs.exists_refused_iff ends, runs.exists_ok_iff ends, Ne,
      Node.fault?_eq_none_iff_of_native native, not_not]
    exact ⟨Iff.rfl, Iff.rfl⟩

/-- One pair of parentheses is two levels where it holds a group. -/
theorem evaluate_of_read_group_in_negation :
    ∃ error, compile 22 ⟨"m", 1, false, by decide, by decide⟩
        "<style>@media a\x7b:not(b,*)\x7b\x7d\x7d</style>" "x" =
          .error (.halt (.refused error)) ∧
      (error = .selectorTooDeep 1 ∨ error = .rulesTooDeep 1) := by
  have found : read ⟨"m", 1, false, by decide, by decide⟩
      "<style>@media a\x7b:not(b,*)\x7b\x7d\x7d</style>" =
        .ok (.style [] ⟨[.conditional .media "a" [.style (.negation
          (.group [.simple (.type "b"), .simple .any])) []]]⟩) := by decide +kernel
  obtain ⟨ends, decides, kinds⟩ :=
    @evaluate_of_read _ 22 _ _ _ found (by decide : ("x" : Text) ≠ [])
  have deep : Css.Selector.LiesUnder (.simple .any) 2
      (.negation (.group [.simple (.type "b"), .simple .any])) :=
    .negation (.group (List.mem_cons_of_mem _ List.mem_cons_self) .here)
  rcases (decides (ends (.inr (by decide)))).1.mpr ⟨[], _, List.mem_singleton_self _,
    .inr ⟨_, List.mem_singleton_self _, _, 2, deep, by decide⟩⟩ with ⟨error, failed⟩
  exact ⟨error, by simp only [compile, found, failed], kinds error failed⟩

/-- A style element with as many negations in each other. -/
def nestedNegations (levels : Nat) : Text :=
  "<style>" ++ (List.replicate levels ("a b:not(" : Text)).flatten ++ "c" ++
    List.replicate levels ')' ++ "\x7b\x7d</style>"

/-- Nothing in the tree nests deeper than 256 levels, the standard limit, but to scope it
takes more calls than a stack of 1000 holds. -/
theorem exists_outOfStack_of_read :
    ∃ tree, read .standard (nestedNegations 256) = .ok tree ∧
      ¬ tree.NestsDeeper Config.standard.maxDepth ∧
      ∀ room ≤ 1000, tree.evaluate room "x" .standard = .error .outOfStack := by
  have found : read .standard (nestedNegations 256) =
      .ok (.style [] (Css.Sheet.ofSelector (Css.Selector.nestedNegations 256))) := by
    decide +kernel
  have faultless : Node.fault? Config.standard.maxDepth
      (.style [] (Css.Sheet.ofSelector (Css.Selector.nestedNegations 256))) = none :=
    Css.Sheet.faultIn?_eq_none_iff_scopable.mpr
      (Css.Sheet.scopable_nestedNegations (Nat.le_refl 256))
  refine ⟨_, found, (Node.fault?_eq_none_iff_of_native (native_of_read found)).mp faultless,
    fun room le => ?_⟩
  have runs := Node.evaluate_runs (by decide : ("x" : Text) ≠ []) room
    (.style [] (Css.Sheet.ofSelector (Css.Selector.nestedNegations 256))) .standard
  rw [faultless] at runs
  refine runs.eq_outOfStack ?_
  rw [Node.calls, Css.Sheet.calls_nestedNegations]
  omega

end ScopedMarkup.Markup
