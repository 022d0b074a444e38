import ScopedMarkup.Proofs.Css.Comment
import ScopedMarkup.Proofs.Css.Sheet.Native

/-! # Where the errors of a sheet are placed

Each prelude that is kept for later stands in the sheet where its index says. So the
errors of selectors, which are counted from there, lie inside the sheet like all others.
-/

namespace ScopedMarkup.Css

/-! ## Rules whose preludes cannot be changed -/

namespace Rule

variable {σ τ ε : Type}

theorem preludesIn_append (left right : List (Rule σ)) :
    preludesIn (left ++ right) = preludesIn left ++ preludesIn right := by
  induction left with
  | nil => rfl
  | cons rule left induction =>
      rw [List.cons_append, preludesIn, induction, preludesIn, List.append_assoc]

mutual
theorem exists_of_traverse_eq_error {change : σ → Except ε τ} {error : ε} : ∀ {rule : Rule σ},
    traverse change rule = .error error → ∃ prelude ∈ preludes rule, change prelude = .error error
  | .conditional .., failed => exists_of_traverseAll_eq_error (map_eq_error_iff.mp failed)
  | .style prelude _, failed =>
      ⟨prelude, List.mem_singleton_self prelude, map_eq_error_iff.mp failed⟩

/-- Where the change of rules fails, that of some prelude does. -/
theorem exists_of_traverseAll_eq_error {change : σ → Except ε τ} {error : ε} :
    ∀ {rules : List (Rule σ)}, traverseAll change rules = .error error →
      ∃ prelude ∈ preludesIn rules, change prelude = .error error
  | rule :: rest, failed => by
      rw [traverseAll] at failed
      cases here : traverse change rule with
      | error other =>
          rw [here] at failed
          cases failed
          rcases exists_of_traverse_eq_error here with ⟨prelude, member, own⟩
          exact ⟨prelude, List.mem_append_left _ member, own⟩
      | ok changed =>
          rw [here] at failed
          rcases exists_of_traverseAll_eq_error (map_eq_error_iff.mp failed) with
            ⟨prelude, member, own⟩
          exact ⟨prelude, List.mem_append_right _ member, own⟩
end

end Rule

/-! ## Errors of selectors -/

/-- A selector that cannot be read is wrong within its text. -/
theorem Selector.index?_le_of_read {config : Config} {text : Text} {error : Selector.ReadError}
    (failed : Selector.read config text = .error error) :
    error.index?.getD 0 ≤ text.length := by
  have bound (fault : Fault) :
      (Error.ofFault (clean text) fault).place.index ≤ text.length :=
    Nat.le_trans (Nat.sub_le _ _) (length_clean_le text)
  unfold Selector.read Selector.ofClean at failed
  split at failed
  · cases failed
    exact bound _
  · split at failed
    · cases failed
      exact bound _
    · split at failed
      · cases failed
        exact Nat.zero_le _
      · cases failed

namespace Sheet

/-! ## Where preludes stand -/

/-- The piece stands in the source where its index says. -/
def Lexeme.StandsIn (source : Text) (piece : Lexeme) : Prop :=
  ∃ before after, source = before ++ piece.text ++ after ∧ piece.index = before.length

theorem Lexeme.StandsIn.index_add_length_le {source : Text} {piece : Lexeme}
    (stands : piece.StandsIn source) : piece.index + piece.text.length ≤ source.length := by
  rcases stands with ⟨before, after, rfl, index⟩
  simp [index]

/-- What was scanned at the start of a text that is left stands there. -/
theorem Lexeme.standsIn_of_suffix {source piece rest : Text} (left : piece ++ rest <:+ source) :
    Lexeme.StandsIn source ⟨piece, source.length - (piece ++ rest).length⟩ := by
  rcases left with ⟨before, rfl⟩
  exact ⟨before, rest, by simp, by simp⟩

section Kept

variable (kept : Lexeme → Prop)

def Head.Keeps : Head → Prop
  | .style prelude => kept prelude
  | .conditional .. | .keyframes .. | .keyframe _ | .fontFace | .page _ => True

def Awaited.Keeps : Awaited → Prop
  | .block head => head.Keeps kept
  | _ => True

def Move.Keeps : Move → Prop
  | .await next => next.Keeps kept
  | .enter head => head.Keeps kept
  | .add rule => ∀ prelude ∈ rule.preludes, kept prelude
  | .declare _ | .leave => True

def Body.Keeps (body : Body) : Prop := ∀ prelude ∈ Rule.preludesIn body.rules, kept prelude

/-- What is known of every prelude that reading has come across. -/
structure Progress.Keeps (progress : Progress) : Prop where
  awaited : progress.awaited.Keeps kept
  around : ∀ block ∈ progress.around, block.1.Keeps kept ∧ block.2.Keeps kept
  inside : progress.inside.Keeps kept

variable {kept}

theorem Body.Keeps.addRule {body : Body} {rule : Rule Lexeme} (keeps : body.Keeps kept)
    (added : ∀ prelude ∈ rule.preludes, kept prelude) : (body.addRule rule).Keeps kept := by
  rw [Body.Keeps, Body.addRule, Rule.preludesIn_append, List.forall_mem_append]
  refine ⟨keeps, ?_⟩
  rwa [Rule.preludesIn, Rule.preludesIn, List.append_nil]

theorem Body.Keeps.addBlock {body inner : Body} {head : Head} (keeps : body.Keeps kept)
    (own : head.Keeps kept) (inside : inner.Keeps kept) :
    (body.addBlock head inner).Keeps kept := by
  cases head with
  | conditional clause condition => exact keeps.addRule inside
  | style prelude => exact keeps.addRule (List.forall_mem_singleton.mpr own)
  | keyframe key => exact keeps
  | keyframes _ _ | fontFace | page _ => exact keeps.addRule (List.forall_mem_nil _)

theorem Head.keeps_inside (head : Head) : head.inside.Keeps kept := by
  cases head <;> trivial

theorem Progress.keeps_resumed (around : List (Head × Body)) : (resumed around).Keeps kept := by
  cases around with
  | nil => trivial
  | cons block around => exact block.1.keeps_inside

theorem Progress.Keeps.advance {progress next : Progress} {text : Text} {move : Move}
    (keeps : progress.Keeps kept) (moveKeeps : move.Keeps kept)
    (advanced : progress.advance? text move = some next) : next.Keeps kept := by
  cases move with
  | await awaited =>
      cases advanced
      exact ⟨moveKeeps, keeps.around, keeps.inside⟩
  | declare declaration =>
      cases advanced
      exact ⟨trivial, keeps.around, keeps.inside⟩
  | add rule =>
      cases advanced
      exact ⟨trivial, keeps.around, keeps.inside.addRule moveKeeps⟩
  | enter head =>
      cases advanced
      exact ⟨head.keeps_inside,
        List.forall_mem_cons.mpr ⟨⟨moveKeeps, keeps.inside⟩, keeps.around⟩, List.forall_mem_nil _⟩
  | leave =>
      rcases progress with ⟨awaited, around, inside, lastPiece⟩
      cases around with
      | nil => simp [advance?] at advanced
      | cons block around =>
          cases advanced
          rcases List.forall_mem_cons.mp keeps.around with ⟨⟨head, body⟩, further⟩
          exact ⟨keeps_resumed around, further, body.addBlock head keeps.inside⟩

/-- Only a piece that is awaited as a prelude is kept. -/
theorem keeps_of_move? {awaited : Awaited} {terminal : Terminal} {action : Lexeme → Move}
    {piece : Lexeme} (moved : awaited.move? terminal = some action) (keeps : awaited.Keeps kept)
    (own : kept piece) : (action piece).Keeps kept := by
  cases moves_of_move? moved with
  | stylePrelude => exact own
  | charsetValue | nameSpaceValue => exact List.forall_mem_nil _
  | blockOpen => exact keeps
  | _ => trivial

theorem Progress.keeps_start (text : Text) : (Progress.start text).Keeps kept :=
  ⟨trivial, List.forall_mem_nil _, List.forall_mem_nil _⟩

end Kept

/-- What is known of every piece at its place is known of the preludes that are kept. -/
theorem keeps_of_rulesFrom {kept : Lexeme → Prop} {source text : Text} {progress : Progress}
    {rules : List (Rule Lexeme)}
    (own : ∀ {terminal : Terminal} {piece rest : Text}, terminal.Recognises piece →
      piece ++ rest <:+ source → kept ⟨piece, source.length - (piece ++ rest).length⟩)
    (left : text <:+ source) (keeps : progress.Keeps kept)
    (read : rulesFrom source progress text = .ok rules) :
    ∀ prelude ∈ Rule.preludesIn rules, kept prelude := by
  fun_induction rulesFrom source progress text with
  | case1 =>
      cases read
      exact keeps.inside
  | case2 | case3 | case4 => cases read
  | case5 progress text rest nonempty found matched piece next advanced induction =>
      rcases of_firstMatch?_candidates matched with ⟨moved, recognises, split⟩
      have remaining : found.piece ++ found.rest <:+ source :=
        split ▸ (skipGap_suffix text).trans left
      have keptPiece : kept piece := by
        have keptHere := own recognises remaining
        rwa [split] at keptHere
      exact induction ((List.suffix_append _ _).trans remaining)
        (keeps.advance (keeps_of_move? moved keeps.awaited keptPiece) advanced) read

/-- A prelude that is kept stands where its index says, and begins with no blank. -/
theorem standsIn_of_rawRules {source : Text} {rules : List (Rule Lexeme)}
    (raw : rawRules source = .ok rules) :
    ∀ prelude ∈ Rule.preludesIn rules, prelude.StandsIn source ∧ prelude.text.Leaves isBlank := by
  refine keeps_of_rulesFrom (fun recognises left => ⟨Lexeme.standsIn_of_suffix left, ?_⟩)
    (List.suffix_refl source) (Progress.keeps_start source) raw
  rcases exists_of_recognises recognises with ⟨first, others, rfl, nonblank⟩
  exact Text.leaves_cons.mpr nonblank

/-! ## Where errors are placed -/

/-- The error of a sheet has a place in its text. -/
theorem exists_place_of_read {config : Config} {source : Text} {error : Error}
    (failed : Sheet.read config source = .error error) :
    ∃ index ≤ source.length, error.place = Place.of source index := by
  unfold Sheet.read at failed
  split at failed
  · cases failed
    exact ⟨_, Nat.sub_le _ _, rfl⟩
  · split at failed
    · cases failed
      exact ⟨_, Nat.sub_le _ _, rfl⟩
    · rename_i rules raw
      rcases Rule.exists_of_traverseAll_eq_error (map_eq_error_iff.mp failed) with
        ⟨prelude, member, own⟩
      have stands := (standsIn_of_rawRules raw prelude member).1
      unfold preludeSelector at own
      split at own
      · cases own
      · rename_i inner read
        cases own
        have within := Selector.index?_le_of_read read
        have fits := stands.index_add_length_le
        exact ⟨_, by omega, rfl⟩

end Sheet

end ScopedMarkup.Css
