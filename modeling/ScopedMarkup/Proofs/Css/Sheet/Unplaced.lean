import ScopedMarkup.Proofs.Css.Sheet.Run
import ScopedMarkup.Proofs.Css.Strictness

/-! # Reading regardless of where the pieces stand

Only the errors of preludes tell where a prelude stands. So two runs that agree but for
the indices of their pieces go on alike over the same text, and give the same sheet if
any.
-/

namespace ScopedMarkup.Css

namespace Rule

variable {ε σ τ υ : Type}

theorem mapAll_append (change : σ → τ) (left right : List (Rule σ)) :
    mapAll change (left ++ right) = mapAll change left ++ mapAll change right := by
  induction left with
  | nil => rfl
  | cons rule left induction => rw [List.cons_append, mapAll, induction, mapAll, List.cons_append]

mutual
theorem traverse_map (change : τ → Except ε υ) (before : σ → τ) :
    ∀ rule : Rule σ, traverse change (map before rule) = traverse (change ∘ before) rule
  | .conditional _ _ rules => by
      rw [map, traverse, traverseAll_mapAll change before rules, traverse]
  | .charset _ | .nameSpace _ | .fontFace _ | .page .. | .keyframes .. | .style ..
  | .foreign _ => rfl

theorem traverseAll_mapAll (change : τ → Except ε υ) (before : σ → τ) : ∀ rules : List (Rule σ),
    traverseAll change (mapAll before rules) = traverseAll (change ∘ before) rules
  | [] => rfl
  | rule :: rest => by
      rw [mapAll, traverseAll, traverse_map change before rule,
        traverseAll_mapAll change before rest, traverseAll]
end

end Rule

namespace Sheet

/-! ## Without indices -/

def Lexeme.unplaced (piece : Lexeme) : Lexeme := { piece with index := 0 }

def Head.unplaced : Head → Head
  | .style prelude => .style prelude.unplaced
  | head => head

def Awaited.unplaced : Awaited → Awaited
  | .block head => .block head.unplaced
  | awaited => awaited

def Body.unplaced (body : Body) : Body :=
  { body with rules := Rule.mapAll Lexeme.unplaced body.rules }

def Move.unplaced : Move → Move
  | .await next => .await next.unplaced
  | .add rule => .add (rule.map Lexeme.unplaced)
  | .enter head => .enter head.unplaced
  | move => move

/-- What reading has come to, but for the indices of its pieces and the text of the
last one. -/
def Progress.unplaced (progress : Progress) : Progress where
  awaited := progress.awaited.unplaced
  around := progress.around.map fun block => (block.1.unplaced, block.2.unplaced)
  inside := progress.inside.unplaced
  lastPiece := []

@[simp] theorem Head.inside_unplaced (head : Head) : head.unplaced.inside = head.inside := by
  cases head <;> rfl

@[simp] theorem Head.unplaced_inside (head : Head) : head.inside.unplaced = head.inside := by
  cases head <;> rfl

@[simp] theorem Body.unplaced_addRule (body : Body) (rule : Rule Lexeme) :
    (body.addRule rule).unplaced = body.unplaced.addRule (rule.map Lexeme.unplaced) := by
  simp [addRule, unplaced, Rule.mapAll_append, Rule.mapAll]

@[simp] theorem Body.unplaced_addBlock (body inner : Body) (head : Head) :
    (body.addBlock head inner).unplaced = body.unplaced.addBlock head.unplaced inner.unplaced := by
  cases head with
  | keyframe key => rfl
  | _ => exact body.unplaced_addRule _

theorem Progress.unplaced_resumed (around : List (Head × Body)) :
    (resumed around).unplaced =
      resumed (around.map fun block => (block.1.unplaced, block.2.unplaced)) := by
  cases around with
  | nil => rfl
  | cons block around => simp [resumed]

/-- What a move leads to does not depend on indices, but for its own. -/
theorem Progress.unplaced_advance? (progress : Progress) (text : Text) (move : Move) :
    (progress.advance? text move).map unplaced =
      progress.unplaced.advance? [] move.unplaced := by
  cases move with
  | await awaited | declare declaration => rfl
  | add rule => simp [advance?, Move.unplaced, unplaced, Awaited.unplaced]
  | enter head =>
      simp [advance?, Move.unplaced, unplaced, Body.unplaced, Body.empty, Rule.mapAll]
  | leave =>
      rcases progress with ⟨awaited, around, inside, lastPiece⟩
      cases around with
      | nil => rfl
      | cons block around => simp [advance?, Move.unplaced, unplaced, unplaced_resumed]

theorem Progress.complete_unplaced (progress : Progress) :
    progress.unplaced.complete = progress.complete := by
  rcases progress with ⟨awaited, around, inside, lastPiece⟩
  cases awaited <;> cases around <;> rfl

theorem Awaited.unplaced_move? (awaited : Awaited) (terminal : Terminal) :
    (awaited.unplaced.move? terminal).map (fun action piece => (action piece).unplaced) =
      (awaited.move? terminal).map fun action piece => (action piece).unplaced := by
  cases awaited with
  | block head =>
      cases terminal with
      | openBrace => cases head <;> rfl
      | _ => rfl
  | _ => rfl

/-- What a piece does depends only on its text, but for the index that is kept. -/
theorem unplaced_of_move? {awaited : Awaited} {terminal : Terminal} {action : Lexeme → Move}
    (moved : awaited.move? terminal = some action) {piece other : Lexeme}
    (same : piece.text = other.text) : (action piece).unplaced = (action other).unplaced := by
  have unplaced : piece.unplaced = other.unplaced := by rw [Lexeme.unplaced, same]; rfl
  cases moves_of_move? moved with
  | stylePrelude => simp [Move.unplaced, Awaited.unplaced, Head.unplaced, unplaced]
  | _ => simp [same]

/-! ## Runs that are alike -/

section Alike

variable {source source' text text' : Text} {progress progress' : Progress}
  {rules : List (Rule Lexeme)}

/-- A piece of the same text does the same, wherever it stands. -/
theorem exists_advance?_of_unplaced_eq {terminal : Terminal} {action : Lexeme → Move}
    {piece : Lexeme} {next : Progress} (alike : progress'.unplaced = progress.unplaced)
    (moved : progress.awaited.move? terminal = some action)
    (advanced : progress.advance? text (action piece) = some next)
    (text' : Text) {piece' : Lexeme} (same : piece'.text = piece.text) :
    ∃ action' next', progress'.awaited.move? terminal = some action' ∧
      progress'.advance? text' (action' piece') = some next' ∧ next'.unplaced = next.unplaced := by
  have awaits : progress'.awaited.unplaced = progress.awaited.unplaced :=
    congrArg Progress.awaited alike
  have moves := progress'.awaited.unplaced_move? terminal
  rw [awaits, Awaited.unplaced_move?, moved] at moves
  rcases Option.map_eq_some_iff.mp moves.symm with ⟨action', moved', equal⟩
  have move : (action' piece').unplaced = (action piece).unplaced :=
    (congrFun equal piece').trans (unplaced_of_move? moved same)
  have reached := progress'.unplaced_advance? text' (action' piece')
  rw [alike, move, ← progress.unplaced_advance? text, advanced] at reached
  rcases Option.map_eq_some_iff.mp reached with ⟨next', advanced', unplaced⟩
  exact ⟨action', next', moved', advanced', unplaced⟩

/-- Runs that are alike go on alike over texts that are the same behind their gaps. -/
theorem exists_rulesFrom_of_unplaced_eq {source text text' : Text} {progress progress' : Progress}
    {rules : List (Rule Lexeme)} (source' : Text)
    (read : rulesFrom source progress text = .ok rules)
    (alike : progress'.unplaced = progress.unplaced) (same : skipGap text' = skipGap text) :
    ∃ rules', rulesFrom source' progress' text' = .ok rules' ∧
      Rule.mapAll Lexeme.unplaced rules' = Rule.mapAll Lexeme.unplaced rules := by
  rcases rulesFrom_eq_ok_iff.mp read with
    ⟨ended, complete, rfl⟩ | ⟨found, next, matched, advanced, further⟩
  · have complete' : progress'.complete = true := by
      rwa [← Progress.complete_unplaced, alike, Progress.complete_unplaced]
    exact ⟨_, rulesFrom_eq_ok_iff.mpr (.inl ⟨same.trans ended, complete', rfl⟩),
      congrArg (Body.rules ∘ Progress.inside) alike⟩
  · rcases of_firstMatch?_candidates matched with ⟨moved, recognises, split⟩
    let piece' : Lexeme := ⟨found.piece, source'.length - (skipGap text').length⟩
    have samePiece : piece'.text = found.piece := rfl
    rcases exists_advance?_of_unplaced_eq alike moved advanced (skipGap text') samePiece with
      ⟨action', next', moved', advanced', unplaced⟩
    have scanned := (Scanner.scan_of_firstMatch? matched).2.2
    rw [← split] at scanned
    have matched' := firstMatch?_candidates moved' recognises scanned
    rw [split, ← same] at matched'
    rcases exists_rulesFrom_of_unplaced_eq source' further unplaced rfl with ⟨rules', read', equal⟩
    exact ⟨rules', (rulesFrom_of_match matched' advanced').trans read', equal⟩
termination_by text.length
decreasing_by
  exact Nat.lt_of_lt_of_le (Scanner.rest_length_lt_of_firstMatch? matched)
    (skipGap_suffix text).length_le

/-- Whether a prelude is read, and as what, depends only on its text. -/
theorem agree_preludeSelector_of_text_eq (config : Config) (source source' : Text)
    {prelude prelude' : Lexeme} (same : prelude'.text = prelude.text) :
    AgreeUpTo (fun _ => True) (preludeSelector config source prelude)
      (preludeSelector config source' prelude') := by
  unfold preludeSelector
  rw [same]
  cases Selector.read config prelude.text with
  | ok selector => exact .refl ..
  | error error => exact .ofError trivial

theorem traverseAll_preludeSelector_of_unplaced_eq {config : Config} {rules' : List (Rule Lexeme)}
    {changed : List (Rule Selector)}
    (alike : Rule.mapAll Lexeme.unplaced rules' = Rule.mapAll Lexeme.unplaced rules)
    (selected : Rule.traverseAll (preludeSelector config source) rules = .ok changed)
    (source' : Text) : Rule.traverseAll (preludeSelector config source') rules' = .ok changed := by
  have takenOut := Rule.agree_traverseAll (fun prelude => agree_preludeSelector_of_text_eq config
    source source' (rfl : prelude.unplaced.text = prelude.text)) rules
  have putBack := Rule.agree_traverseAll (fun prelude => agree_preludeSelector_of_text_eq config
    source' source' (rfl : prelude.text = prelude.unplaced.text)) rules'
  have unplaced := takenOut.ok_of_ok selected
  rw [← Function.comp_def, ← Rule.traverseAll_mapAll, ← alike, Rule.traverseAll_mapAll] at unplaced
  exact putBack.ok_of_ok unplaced

end Alike

end Sheet

end ScopedMarkup.Css
