import ScopedMarkup.Proofs.Markup.Capture
import ScopedMarkup.Proofs.Outcome

/-! # How a piece is read

Each way to read a piece, and each way to fail at one, with what has been read up to
there. What is shown about pieces goes by these cases, and the readers stay closed.
-/

namespace ScopedMarkup.Markup

/-! ## Behind the mark of an open tag -/

section

variable (config : Config) (text : Text)

/-- How the piece of an open tag is read, with what follows it. -/
inductive ElementRead : Piece → Text → Prop where
  | emptyStyle {afterName : Text} {attributes : List Attribute} {rest : Text} :
      readName text = .ok ("style", afterName) →
      readAttributes config [] afterName = .ok ⟨attributes, true, rest⟩ →
      ElementRead (.whole (.style attributes {})) rest
  | style {afterName : Text} {attributes : List Attribute} {following closing rest : Text}
      {sheet : Css.Sheet Css.Selector} :
      readName text = .ok ("style", afterName) →
      readAttributes config [] afterName = .ok ⟨attributes, false, following⟩ →
      Token.expect .closeTag (Token.capture (Token.startsClosing "style") following).2 =
        .ok closing →
      readClosing config "style" closing = .ok rest →
      Css.Sheet.read config (Token.capture (Token.startsClosing "style") following).1 =
        .ok sheet →
      ElementRead (.whole (.style attributes sheet)) rest
  | empty {tag afterName : Text} {attributes : List Attribute} {rest : Text} :
      readName text = .ok (tag, afterName) → tag ≠ "style" →
      readAttributes config [] afterName = .ok ⟨attributes, true, rest⟩ →
      ElementRead (.whole (.element tag attributes [])) rest
  | opening {tag afterName : Text} {attributes : List Attribute} {rest : Text} :
      readName text = .ok (tag, afterName) → tag ≠ "style" →
      readAttributes config [] afterName = .ok ⟨attributes, false, rest⟩ →
      ElementRead (.opening tag attributes) rest

/-- How an open tag fails to be read. A style element is read up to its end. -/
inductive ElementFails (fault : Fault) : Prop where
  | name : readName text = .error fault → ElementFails fault
  | attributes {tag afterName : Text} :
      readName text = .ok (tag, afterName) →
      readAttributes config [] afterName = .error fault → ElementFails fault
  | style {afterName : Text} {attributes : List Attribute} {following : Text} :
      readName text = .ok ("style", afterName) →
      readAttributes config [] afterName = .ok ⟨attributes, false, following⟩ →
      readStyle config attributes following = .error fault → ElementFails fault

end

variable {config : Config} {openTags : List Text} {text rest : Text} {piece : Piece}
  {fault : Fault}

theorem exists_of_readStyle {attributes : List Attribute}
    (read : readStyle config attributes text = .ok (piece, rest)) :
    ∃ closing sheet,
      Token.expect .closeTag (Token.capture (Token.startsClosing "style") text).2 =
        .ok closing ∧
      readClosing config "style" closing = .ok rest ∧
      Css.Sheet.read config (Token.capture (Token.startsClosing "style") text).1 = .ok sheet ∧
      piece = .whole (.style attributes sheet) := by
  unfold readStyle at read
  simp only at read
  split at read
  · cases read
  · rename_i closing marked
    split at read
    · cases read
    · rename_i closed
      split at read
      · cases read
      · rename_i sheet readSheet
        cases read
        exact ⟨closing, sheet, marked, closed, readSheet, rfl⟩

theorem elementRead_of_readElement (read : readElement config text = .ok (piece, rest)) :
    ElementRead config text piece rest := by
  unfold readElement at read
  split at read
  · cases read
  · rename_i tag afterName named
    split at read
    · cases read
    · rename_i attributes closesItself following ended
      split at read
      · rename_i isStyle
        subst isStyle
        cases closesItself with
        | true =>
            cases read
            exact .emptyStyle named ended
        | false =>
            rcases exists_of_readStyle read with ⟨closing, sheet, marked, closed, readSheet, rfl⟩
            exact .style named ended marked closed readSheet
      · rename_i isOther
        cases closesItself with
        | true =>
            cases read
            exact .empty named isOther ended
        | false =>
            cases read
            exact .opening named isOther ended

theorem elementFails_of_readElement (failed : readElement config text = .error fault) :
    ElementFails config text fault := by
  unfold readElement at failed
  split at failed
  · rename_i unnamed
    cases failed
    exact .name unnamed
  · rename_i tag afterName named
    split at failed
    · rename_i wrong
      cases failed
      exact .attributes named wrong
    · rename_i attributes closesItself following ended
      split at failed
      · rename_i isStyle
        subst isStyle
        cases closesItself with
        | true => cases failed
        | false => exact .style named ended failed
      · split at failed <;> cases failed

/-! ## Pieces -/

section

variable (config : Config) (openTags : List Text) (text : Text)

/-- How a piece is read, with what follows it. -/
inductive PieceRead : Piece → Text → Prop where
  | slot {rest : Text} :
      (Token.first text).kind = .slotOpen →
      Token.expect .slotClose (Token.capture Token.endsScript (Token.rest text)).2 = .ok rest →
      PieceRead (.whole (.slot (Token.capture Token.endsScript (Token.rest text)).1)) rest
  | element {piece : Piece} {rest : Text} :
      (Token.first text).kind = .lessThan → openTags.length < config.maxDepth →
      readElement config (Token.rest text) = .ok (piece, rest) → PieceRead piece rest
  | closing {tag : Text} {around : List Text} {rest : Text} :
      (Token.first text).kind = .closeTag → openTags = tag :: around →
      readClosing config tag (Token.rest text) = .ok rest → PieceRead .closing rest
  | text :
      Token.endsText text = false →
      PieceRead (.whole (.text (Token.capture Token.endsText text).1))
        (Token.capture Token.endsText text).2

/-- How no piece can be read. A run of text is always one. -/
inductive PieceFails : Fault → Prop where
  | slot {fault : Fault} :
      (Token.first text).kind = .slotOpen →
      Token.expect .slotClose (Token.capture Token.endsScript (Token.rest text)).2 =
        .error fault →
      PieceFails fault
  | tooDeep :
      (Token.first text).kind = .lessThan → config.maxDepth ≤ openTags.length →
      PieceFails ⟨.nestingTooDeep config.maxDepth, text⟩
  | element {fault : Fault} :
      (Token.first text).kind = .lessThan → openTags.length < config.maxDepth →
      readElement config (Token.rest text) = .error fault → PieceFails fault
  | unopened :
      (Token.first text).kind = .closeTag → openTags = [] → PieceFails (.unexpected text)
  | closing {tag : Text} {around : List Text} {fault : Fault} :
      (Token.first text).kind = .closeTag → openTags = tag :: around →
      readClosing config tag (Token.rest text) = .error fault → PieceFails fault

end

theorem pieceRead_of_readPiece (read : readPiece config openTags text = .ok (piece, rest)) :
    PieceRead config openTags text piece rest := by
  unfold readPiece at read
  split at read
  · rename_i opening
    rcases map_eq_ok_iff.mp read with ⟨following, closed, equal⟩
    cases equal
    exact .slot opening closed
  · rename_i lessThan
    split at read
    · cases read
    · rename_i shallow
      exact .element lessThan (Nat.lt_of_not_le shallow) read
  · rename_i closeTag
    split at read
    · cases read
    · rcases map_eq_ok_iff.mp read with ⟨following, closed, equal⟩
      cases equal
      exact .closing closeTag rfl closed
  · rename_i noSlot noOpening noClosing
    cases read
    refine .text ?_
    simp only [Token.endsText, Token.startsWith, List.contains_eq_mem, decide_eq_false_iff_not,
      List.mem_cons, List.not_mem_nil, or_false, not_or]
    exact ⟨noSlot, noOpening, noClosing⟩

theorem pieceFails_of_readPiece (failed : readPiece config openTags text = .error fault) :
    PieceFails config openTags text fault := by
  unfold readPiece at failed
  split at failed
  · rename_i opening
    exact .slot opening (map_eq_error_iff.mp failed)
  · rename_i lessThan
    split at failed
    · rename_i deep
      cases failed
      exact .tooDeep lessThan deep
    · rename_i shallow
      exact .element lessThan (Nat.lt_of_not_le shallow) failed
  · rename_i closeTag
    split at failed
    · cases failed
      exact .unopened closeTag rfl
    · exact .closing closeTag rfl (map_eq_error_iff.mp failed)
  · cases failed

theorem readPiece_suffix (read : readPiece config openTags text = .ok (piece, rest)) :
    rest <:+ text := by
  cases pieceRead_of_readPiece read with
  | slot _ closed =>
      exact ((Token.expect_suffix closed).trans (Token.capture_suffix _ _)).trans
        (Token.rest_suffix text)
  | element _ _ element => exact (readElement_suffix element).trans (Token.rest_suffix text)
  | closing _ _ closed => exact (readClosing_suffix closed).trans (Token.rest_suffix text)
  | text => exact Token.capture_suffix _ _

end ScopedMarkup.Markup
