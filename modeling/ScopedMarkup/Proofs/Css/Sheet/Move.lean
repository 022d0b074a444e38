import ScopedMarkup.Css.Sheet.Reader

/-! # What a piece does

The grammar of sheets as a relation, with one case for each way to go on. What is shown
about every piece that may come next goes by these cases.
-/

namespace ScopedMarkup.Css.Sheet

/-- Where this is awaited, this terminal may come next, and does this. -/
inductive Awaited.Moves : Awaited → Terminal → (Lexeme → Move) → Prop where
  | stylePrelude : Moves .rule .prelude fun piece => .await (.block (.style piece))
  | keyframesKeyword :
      Moves .rule .keyframesKeyword fun piece => .await (.keyframesName piece.text)
  | documentKeyword :
      Moves .rule .documentKeyword fun piece => .await (.condition (.document piece.text))
  | nameSpaceKeyword : Moves .rule .nameSpaceKeyword fun _ => .await .nameSpaceValue
  | fontFaceKeyword : Moves .rule .fontFaceKeyword fun _ => .await (.block .fontFace)
  | supportsKeyword : Moves .rule .supportsKeyword fun _ => .await (.condition .supports)
  | charsetKeyword : Moves .rule .charsetKeyword fun _ => .await .charsetValue
  | mediaKeyword : Moves .rule .mediaKeyword fun _ => .await (.condition .media)
  | pageKeyword : Moves .rule .pageKeyword fun _ => .await .pageSelector
  | ruleClose : Moves .rule .closeBrace fun _ => .leave
  | charsetValue : Moves .charsetValue .string fun piece => .add (.charset piece.text)
  | nameSpaceValue :
      Moves .nameSpaceValue .prelude fun piece => .add (.nameSpace (clean piece.text))
  | ruleEnd : Moves .ruleEnd .semicolon fun _ => .await .rule
  | condition {clause : Conditional} :
      Moves (.condition clause) .prelude
        fun piece => .await (.block (.conditional clause (clean piece.text)))
  | keyframesName {keyword : Text} :
      Moves (.keyframesName keyword) .prelude
        fun piece => .await (.block (.keyframes keyword (clean piece.text)))
  | frameKey : Moves .frame .prelude fun piece => .await (.block (.keyframe (clean piece.text)))
  | frameClose : Moves .frame .closeBrace fun _ => .leave
  | pageSelector :
      Moves .pageSelector .prelude fun piece => .await (.block (.page (clean piece.text)))
  | pageOpen : Moves .pageSelector .openBrace fun _ => .enter (.page [])
  | blockOpen {head : Head} : Moves (.block head) .openBrace fun _ => .enter head
  | property : Moves .declaration .property fun piece => .await (.colon piece.text)
  | emptyDeclaration : Moves .declaration .semicolon fun _ => .await .declaration
  | declarationClose : Moves .declaration .closeBrace fun _ => .leave
  | colon {name : Text} : Moves (.colon name) .colon fun _ => .await (.value name)
  | value {name : Text} :
      Moves (.value name) .value fun piece => .declare ⟨name, piece.text.trim⟩
  | declarationEnd : Moves .declarationEnd .semicolon fun _ => .await .declaration
  | declarationEndClose : Moves .declarationEnd .closeBrace fun _ => .leave

section

variable {awaited : Awaited} {terminal : Terminal} {action : Lexeme → Move} {piece : Lexeme}

theorem moves_of_move? (moved : awaited.move? terminal = some action) :
    awaited.Moves terminal action := by
  unfold Awaited.move? at moved
  split at moved
  all_goals cases moved
  all_goals constructor

theorem openBrace_of_enter {head : Head} (moved : awaited.move? terminal = some action)
    (enters : action piece = .enter head) : terminal = .openBrace := by
  cases moves_of_move? moved with
  | pageOpen | blockOpen => rfl
  | _ => cases enters

theorem closeBrace_of_leave (moved : awaited.move? terminal = some action)
    (leaves : action piece = .leave) : terminal = .closeBrace := by
  cases moves_of_move? moved with
  | ruleClose | frameClose | declarationClose | declarationEndClose => rfl
  | _ => cases leaves

theorem enter_of_openBrace (moved : awaited.move? .openBrace = some action) :
    ∃ head, ∀ piece, action piece = .enter head := by
  cases moves_of_move? moved with
  | pageOpen | blockOpen => exact ⟨_, fun _ => rfl⟩

theorem leave_of_closeBrace (moved : awaited.move? .closeBrace = some action) :
    action piece = .leave := by
  cases moves_of_move? moved with
  | ruleClose | frameClose | declarationClose | declarationEndClose => rfl

/-- Only braces change which blocks are open. -/
theorem around_of_advance? {progress next : Progress} {text : Text}
    (moved : progress.awaited.move? terminal = some action)
    (unbraced : terminal ≠ .openBrace ∧ terminal ≠ .closeBrace)
    (advanced : progress.advance? text (action piece) = some next) :
    next.around = progress.around := by
  cases move : action piece with
  | enter head => exact absurd (openBrace_of_enter moved move) unbraced.1
  | leave => exact absurd (closeBrace_of_leave moved move) unbraced.2
  | await _ | add _ | declare _ =>
      rw [move] at advanced
      cases advanced
      rfl

end

end ScopedMarkup.Css.Sheet
