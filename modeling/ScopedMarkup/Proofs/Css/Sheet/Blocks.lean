import ScopedMarkup.Proofs.Css.Settled
import ScopedMarkup.Proofs.Css.Sheet.Depth
import ScopedMarkup.Proofs.Css.Sheet.Gap

/-! # How deep the blocks of a sheet nest that was read

The check of blocks bounds how deep the conditional rules of a sheet nest, as long as it
counts the braces that the reader finds. Between two pieces it does. Within a piece it
passes over comments, which the reader keeps as text, so they have to be closed there and
hold no braces and no quotes.
-/

namespace ScopedMarkup.Css

namespace Rule

variable {σ τ ε : Type}

theorem nestingIn_append (left right : List (Rule σ)) :
    nestingIn (left ++ right) = max (nestingIn left) (nestingIn right) := by
  induction left with
  | nil => exact (Nat.zero_max _).symm
  | cons rule left induction =>
      rw [List.cons_append, nestingIn, induction, nestingIn, Nat.max_assoc]

mutual
theorem nesting_of_traverse {change : σ → Except ε τ} : ∀ {rule : Rule σ} {changed : Rule τ},
    traverse change rule = .ok changed → nesting changed = nesting rule
  | .conditional .., _, traversed => by
      rcases map_eq_ok_iff.mp traversed with ⟨rules, inside, rfl⟩
      rw [nesting, nesting, nestingIn_of_traverseAll inside]
  | .style .., _, traversed => by
      rcases map_eq_ok_iff.mp traversed with ⟨selector, -, rfl⟩
      rfl
  | .charset _, _, rfl | .nameSpace _, _, rfl | .fontFace _, _, rfl | .page .., _, rfl
  | .keyframes .., _, rfl | .foreign _, _, rfl => rfl

/-- Other preludes leave the rules nested as they are. -/
theorem nestingIn_of_traverseAll {change : σ → Except ε τ} :
    ∀ {rules : List (Rule σ)} {changed : List (Rule τ)},
      traverseAll change rules = .ok changed → nestingIn changed = nestingIn rules
  | [], _, rfl => rfl
  | rule :: rest, _, traversed => by
      rcases exists_of_traverseAll_cons traversed with ⟨first, others, rfl, here, further⟩
      rw [nestingIn, nestingIn, nesting_of_traverse here, nestingIn_of_traverseAll further]
end

end Rule

namespace Sheet

/-! ## The pieces of a sheet -/

/-- The pieces that reading finds in a text that is the rest of a sheet. -/
def piecesFrom (source : Text) (progress : Progress) (text : Text) : List Text :=
  let rest := skipGap text
  match _found : Scanner.firstMatch? (fun candidate => candidate.1.scanner) rest
      progress.awaited.candidates with
  | none => []
  | some found =>
      match progress.advance? rest
          (found.kind.2 ⟨found.piece, source.length - rest.length⟩) with
      | none => []
      | some next => found.piece :: piecesFrom source next found.rest
termination_by text.length
decreasing_by
  exact Nat.lt_of_lt_of_le (Scanner.rest_length_lt_of_firstMatch? _found)
    (skipGap_suffix text).length_le

def pieces (source : Text) : List Text := piecesFrom source (.start source) source

example : pieces "a /* b */ \x7b/* c */d:e/* f */;\x7d" =
    [("a /* b */ " : Text), ['{'], ['d'], [':'], ("e/* f */" : Text), [';'], ['}']] := by
  decide +kernel

theorem piecesFrom_of_match {source text : Text} {progress next : Progress}
    {found : Scanner.Match (Terminal × (Lexeme → Move))}
    (matched : Scanner.firstMatch? (fun candidate => candidate.1.scanner) (skipGap text)
      progress.awaited.candidates = some found)
    (advanced : progress.advance? (skipGap text)
      (found.kind.2 ⟨found.piece, source.length - (skipGap text).length⟩) = some next) :
    piecesFrom source progress text = found.piece :: piecesFrom source next found.rest := by
  rw [piecesFrom.eq_def]
  simp only
  split
  · rename_i none
    rw [matched] at none
    cases none
  · rename_i other same
    rw [matched, Option.some.injEq] at same
    subst same
    simp only [advanced]

/-! ## Rules that fit into the levels that are left -/

/-- Around each open block, the rules fit into the levels that are left there. -/
def FitsAround (limit : Nat) : List (Head × Body) → Prop
  | [] => True
  | (_, body) :: around =>
      around.length + Rule.nestingIn body.rules ≤ limit ∧ FitsAround limit around

/-- The rules that were read fit into the levels that the open blocks leave. -/
structure Progress.FitsIn (limit : Nat) (progress : Progress) : Prop where
  around : FitsAround limit progress.around
  inside : progress.around.length + Rule.nestingIn progress.inside.rules ≤ limit

theorem Body.nestingIn_addRule_le {bound : Nat} {body : Body} {rule : Rule Lexeme}
    (fits : Rule.nestingIn body.rules ≤ bound) (own : rule.nesting ≤ bound) :
    Rule.nestingIn (body.addRule rule).rules ≤ bound := by
  rw [addRule, Rule.nestingIn_append, Rule.nestingIn, Rule.nestingIn]
  omega

/-- A block that is closed takes one level more than its rules. -/
theorem Body.nestingIn_addBlock_le {bound : Nat} {body inner : Body} (head : Head)
    (fits : Rule.nestingIn body.rules ≤ bound) (inside : Rule.nestingIn inner.rules + 1 ≤ bound) :
    Rule.nestingIn (body.addBlock head inner).rules ≤ bound := by
  cases head with
  | conditional clause condition => exact nestingIn_addRule_le fits inside
  | keyframe key => exact fits
  | keyframes _ _ | fontFace | page _ | style _ =>
      exact nestingIn_addRule_le fits (Nat.zero_le bound)

/-- Rules that come without a block have no depth. -/
theorem nesting_of_move? {awaited : Awaited} {terminal : Terminal} {action : Lexeme → Move}
    {piece : Lexeme} {rule : Rule Lexeme} (moved : awaited.move? terminal = some action)
    (adds : action piece = .add rule) : rule.nesting = 0 := by
  cases moves_of_move? moved with
  | charsetValue | nameSpaceValue =>
      cases adds
      rfl
  | _ => cases adds

theorem Progress.FitsIn.advance {limit : Nat} {progress next : Progress} {text : Text}
    {move : Move} (fits : progress.FitsIn limit) (shallow : next.around.length ≤ limit)
    (adds : ∀ rule, move = .add rule → rule.nesting = 0)
    (advanced : progress.advance? text move = some next) : next.FitsIn limit := by
  have inside := fits.inside
  cases move with
  | await _ | declare _ =>
      cases advanced
      exact ⟨fits.around, inside⟩
  | add rule =>
      cases advanced
      have own := adds rule rfl
      refine ⟨fits.around, ?_⟩
      simp only [Body.addRule, Rule.nestingIn_append, Rule.nestingIn]
      omega
  | enter head =>
      cases advanced
      exact ⟨⟨inside, fits.around⟩, shallow⟩
  | leave =>
      rcases progress with ⟨awaited, around, inner, lastPiece⟩
      cases around with
      | nil => simp [advance?] at advanced
      | cons block around =>
          cases advanced
          rcases block with ⟨head, body⟩
          rcases fits.around with ⟨outer, further⟩
          simp only [List.length_cons] at inside
          refine ⟨further, ?_⟩
          have added := Body.nestingIn_addBlock_le head
            (show Rule.nestingIn body.rules ≤ limit - around.length by omega)
            (show Rule.nestingIn inner.rules + 1 ≤ limit - around.length by omega)
          dsimp only
          omega

/-! ## What the check bounds -/

/-- The invariant of reading: the check is as deep as there are open blocks, and what was
read fits into the levels that they leave. -/
theorem nestingIn_of_rulesFrom {limit : Nat} {source text : Text} {progress : Progress}
    {rules : List (Rule Lexeme)}
    (settled : ∀ piece ∈ piecesFrom source progress text, Brackets.curly.Settled piece)
    (fits : progress.FitsIn limit)
    (counted : Brackets.curly.overflow? limit .plain progress.around.length text = none)
    (read : rulesFrom source progress text = .ok rules) : Rule.nestingIn rules ≤ limit := by
  fun_induction rulesFrom source progress text with
  | case1 progress text rest ended complete =>
      cases read
      exact Nat.le_trans (Nat.le_add_left _ _) fits.inside
  | case2 | case3 | case4 => cases read
  | case5 progress text rest nonempty found matched piece next advanced induction =>
      rw [piecesFrom_of_match matched advanced, List.forall_mem_cons] at settled
      rcases of_firstMatch?_candidates matched with ⟨moved, recognises, split⟩
      change found.piece ++ found.rest = skipGap text at split
      rcases exists_isGap_skipGap text with ⟨gap, isGap, equal⟩
      have scanned : found.kind.1.scanner.scan rest = some (found.piece, found.rest) :=
        (Scanner.scan_of_firstMatch? matched).2.2
      have marks : Brackets.curly.Ordinary '/' ∧ Brackets.curly.Ordinary '*' := by decide
      have shallow := Nat.le_trans (Nat.le_add_right _ _) fits.inside
      -- Gap, piece and rest are counted one after the other.
      rw [equal, isGap.overflow?_append, ← split,
        settled.1.overflow?_append_iff marks (apart_of_scan scanned)] at counted
      rcases counted with ⟨reached, walked, behind⟩
      rcases walk?_of_advance? moved recognises shallow advanced (Option.isSome_of_eq_some walked)
        with ⟨stillShallow, walkedPiece⟩
      rw [walkedPiece] at walked
      cases walked
      have adds (rule : Rule Lexeme) (equal : found.kind.2 piece = .add rule) :
          rule.nesting = 0 := nesting_of_move? moved equal
      exact induction settled.2 (fits.advance stillShallow adds advanced) behind read

/-- The conditional rules of a sheet that was read nest no deeper than the limit of the
check, if the check counts the braces in each of its pieces. -/
theorem nestingIn_le_of_read {config : Config} {source : Text} {sheet : Sheet Selector}
    (settled : ∀ piece ∈ pieces source, Brackets.curly.Settled piece)
    (read : Sheet.read config source = .ok sheet) :
    Rule.nestingIn sheet.rules ≤ config.maxDepth + 1 := by
  rcases read_eq_ok_iff.mp read with ⟨checked, rules, raw, traversed⟩
  have start : (Progress.start source).FitsIn (config.maxDepth + 1) := ⟨trivial, Nat.zero_le _⟩
  rw [Rule.nestingIn_of_traverseAll traversed]
  exact nestingIn_of_rulesFrom settled start (Brackets.check_eq_ok_iff_overflow?.mp checked) raw

/-- A brace in a comment between pieces, a comment in a prelude, and a brace in a string. -/
theorem nestingIn_le_of_read_around_comments :
    ∃ sheet : Sheet Selector,
      Sheet.read { maxDepth := 2 }
          "@media /* \x7b */ a\x7b@supports b /* c */\x7b@document d('\x7b')\x7b\x7d\x7d\x7d" =
        .ok sheet ∧
        Rule.nestingIn sheet.rules = 3 ∧ Rule.nestingIn sheet.rules ≤ 2 + 1 := by
  have settled : ∀ piece ∈ pieces
      "@media /* \x7b */ a\x7b@supports b /* c */\x7b@document d('\x7b')\x7b\x7d\x7d\x7d",
      Brackets.curly.Settled piece := by
    decide +kernel
  have read : Sheet.read { maxDepth := 2 }
      "@media /* \x7b */ a\x7b@supports b /* c */\x7b@document d('\x7b')\x7b\x7d\x7d\x7d" =
      .ok ⟨[.conditional .media "a" [.conditional .supports "b"
        [.conditional (.document "@document") "d('\x7b')" []]]]⟩ := by
    decide +kernel
  exact ⟨_, read, rfl, nestingIn_le_of_read settled read⟩

/-- The check passes over a brace that stands between two conditions, one of which holds
the mark that a comment begins with and the other the mark that it ends with. -/
theorem exists_nestingIn_gt :
    ∃ sheet : Sheet Selector,
      Sheet.read { maxDepth := 1 }
          "@media a/*\x7b@media b*/\x7b@media c\x7b\x7d\x7d\x7d" = .ok sheet ∧
        1 + 1 < Rule.nestingIn sheet.rules := by
  have read : Sheet.read { maxDepth := 1 }
      "@media a/*\x7b@media b*/\x7b@media c\x7b\x7d\x7d\x7d" =
      .ok ⟨[.conditional .media "a/*" [.conditional .media "b*/"
        [.conditional .media "c" []]]]⟩ := by
    decide +kernel
  exact ⟨_, read, by decide⟩

end Sheet

end ScopedMarkup.Css
