import ScopedMarkup.Proofs.Css.Selector.Grammar
import ScopedMarkup.Proofs.Css.Selector.Part

/-! # What reading a selector gives

Reading keeps in step with the grammar: the tokens that are read fit together, so
every selector that is read is formed. Its text has the skeleton of the text that
was read.
-/

namespace ScopedMarkup.Css.Selector

open Terminal

/-! ## The skeleton of a piece -/

section Pieces

variable {text piece rest : Text}

theorem exists_of_scan_padded {sign : Char}
    (found : (padded sign).scan text = some (piece, rest)) :
    ∃ before after : Text, piece = before ++ [sign] ++ after ∧ before.Blank ∧ after.Blank := by
  rcases Scanner.exists_of_scan_append found with ⟨_, _, after, begins, ends, rfl⟩
  rcases Scanner.exists_of_scan_append begins with ⟨before, _, _, starts, signed, rfl⟩
  rcases Scanner.of_scan_literal signed with ⟨rfl, -⟩
  exact ⟨before, after, rfl, (Scanner.of_scan_run starts).2.1, (Scanner.of_scan_run ends).2.1⟩

theorem exists_of_scan_negationClose
    (found : (scanner .negationClose).scan text = some (piece, rest)) :
    ∃ before : Text, piece = before ++ [')'] ∧ before.Blank := by
  rw [scanner_negationClose] at found
  rcases Scanner.exists_of_scan_append found with ⟨before, _, _, starts, signed, rfl⟩
  rcases Scanner.of_scan_literal signed with ⟨rfl, -⟩
  exact ⟨before, rfl, (Scanner.of_scan_run starts).2.1⟩

theorem of_scan_descendant
    (found : (scanner .descendant).scan text = some (piece, rest)) :
    piece.Blank ∧ piece ≠ [] := by
  rcases Scanner.exists_of_scan_append found with ⟨_, _, others, begins, goesOn, rfl⟩
  rcases Scanner.exists_of_scan_character begins with ⟨first, rfl, -, blank⟩
  exact ⟨Text.blank_append (by simpa [Text.Blank] using blank) (Scanner.of_scan_run goesOn).2.1,
    by simp⟩

theorem skeleton_of_scan_padded {sign : Char}
    (found : (padded sign).scan text = some (piece, rest))
    (unstructural : isStructural sign = false) : skeleton piece = [] := by
  rcases exists_of_scan_padded found with ⟨before, after, rfl, blankBefore, blankAfter⟩
  rw [skeleton_append, skeleton_append, skeleton_blank blankBefore, skeleton_blank blankAfter,
    skeleton_cons_of_not [] unstructural]
  rfl

theorem skeleton_of_scan_negationOpen
    (found : (scanner .negationOpen).scan text = some (piece, rest)) : skeleton piece = ['('] := by
  rcases exists_of_scan_negationOpen found with ⟨word, blanks, rfl, negation, blank, -⟩
  change skeleton ([':'] ++ (word ++ (['('] ++ blanks))) = _
  rw [skeleton_append, skeleton_append, skeleton_append,
    skeleton_name (continuesName_of_negation negation), skeleton_blank blank]
  rfl

end Pieces

/-! ## Reading and the grammar in step -/

/-- The first kind recognised nothing if a later one was found. -/
theorem piece_eq_nil_of_firstMatch? {κ : Type} {scanner : κ → Scanner} {kind : κ}
    {kinds : List κ} {text piece rest : Text} {found : Scanner.Match κ}
    (matched : Scanner.firstMatch? scanner text (kind :: kinds) = some found)
    (later : found.kind ≠ kind) (scanned : (scanner kind).scan text = some (piece, rest)) :
    piece = [] := by
  cases piece with
  | nil => rfl
  | cons first piece =>
      simp only [Scanner.firstMatch?, scanned, Option.some.injEq] at matched
      exact absurd (congrArg Scanner.Match.kind matched).symm later

/-- A position says the same as what reading has come to before a text. -/
structure Progress.Agrees (progress : Progress) (text : Text) (position : Position) : Prop where
  wanted : progress.compoundWanted = true ↔ position = .opening
  leaves : position = .afterName → text.Leaves continuesName

section Steps

variable {progress next : Progress} {text : Text} {position : Position}
  {found : Scanner.Match Terminal}

theorem exists_candidates (progress : Progress) :
    ∃ kinds, progress.candidates = Terminal.negationOpen :: kinds := by
  unfold Progress.candidates
  split
  · exact ⟨_, rfl⟩
  · exact ⟨_, rfl⟩

theorem not_opening_of_mem_candidates {terminal : Terminal}
    (agrees : progress.Agrees text position) (member : terminal ∈ progress.candidates)
    (later : terminal ∉ Terminal.opening) : position ≠ .opening := by
  intro equal
  rw [Progress.candidates, if_pos (agrees.wanted.mpr equal)] at member
  exact later member

/-- A functional pseudo was found where no negation opens. -/
theorem noNegation_of_firstMatch?
    (matched : Scanner.firstMatch? Terminal.scanner text progress.candidates = some found)
    (isFunction : found.kind = .function) (piece rest : Text) :
    (scanner .negationOpen).scan text ≠ some (piece, rest) := by
  intro scanned
  rcases exists_candidates progress with ⟨kinds, equal⟩
  rw [equal] at matched
  have empty := piece_eq_nil_of_firstMatch? matched (by simp [isFunction]) scanned
  rcases exists_of_scan_negationOpen scanned with ⟨word, blanks, rfl, -⟩
  simp at empty

/-- The token has the skeleton of its piece, and goes on from the position to another one,
which agrees with what reading has come to behind the piece. -/
def Progress.Extends (progress next : Progress) (position : Position) (piece rest : Text)
    (token : Token) : Prop :=
  skeleton piece = skeleton token.render ∧
    ∃ reached, next.Agrees rest reached ∧
      ∀ tokens, Fits reached next.openNegations tokens →
        Fits position progress.openNegations (token :: tokens)

/-- Behind a sign that a compound has to follow, the position is the opening one. -/
theorem Progress.extends_opening {piece rest : Text} {token : Token}
    (wanted : next.compoundWanted = true) (sameSkeleton : skeleton piece = skeleton token.render)
    (goesOn : ∀ tokens, Fits .opening next.openNegations tokens →
      Fits position progress.openNegations (token :: tokens)) :
    progress.Extends next position piece rest token :=
  ⟨sameSkeleton, .opening, ⟨by simp [wanted], by simp⟩, goesOn⟩

theorem Progress.Agrees.extends_simple {terminal : Terminal} {piece rest : Text}
    (agrees : progress.Agrees text position) (simple : terminal.isSimple = true)
    (scanned : (scanner terminal).scan text = some (piece, rest))
    (noNegation : terminal = .function →
      ∀ piece rest, (scanner .negationOpen).scan text ≠ some (piece, rest))
    (advanced : progress.advance? terminal text = some next)
    (sound : (Token.ofTerminal terminal piece).malformed? = none) :
    progress.Extends next position piece rest (Token.ofTerminal terminal piece) := by
  rcases makes_of_scan scanned simple noNegation with ⟨part, made, makes, typed⟩ | malformed
  · have equal : next = ⟨false, progress.openNegations, text⟩ := by
      cases terminal <;> first | cases advanced; rfl | simp [Terminal.isSimple] at simple
    rw [made, equal]
    refine ⟨skeleton_eq_of_solid_eq makes.solid, .after part.endsName, ⟨?_, ?_⟩, ?_⟩
    · simp [Position.after_ne_opening]
    · intro isAfterName
      refine makes.leaves ?_
      cases named : part.endsName with
      | true => rfl
      | false => exact absurd isAfterName (Position.after_ne_afterName named)
    · intro tokens further
      exact ⟨makes.written, fun isType isAfterName => typed isType (agrees.leaves isAfterName),
        further⟩
  · rw [malformed] at sound
    simp [Token.malformed?] at sound

theorem Progress.extends_negationClose {piece rest : Text} (ended : position ≠ .opening)
    (scanned : (scanner .negationClose).scan text = some (piece, rest))
    (advanced : progress.advance? .negationClose text = some next) :
    progress.Extends next position piece rest (Token.ofTerminal .negationClose piece) := by
  simp only [Progress.advance?] at advanced
  split at advanced
  · simp at advanced
  · rename_i opened
    cases advanced
    rcases exists_of_scan_negationClose scanned with ⟨before, rfl, blank⟩
    refine ⟨?_, .afterPart, ⟨by simp, by simp⟩, fun tokens further => ?_⟩
    · rw [skeleton_append, skeleton_blank blank]
      rfl
    · exact ⟨ended, Nat.pos_of_ne_zero opened, further⟩

/-- Each token that is read goes on from a position that agrees with the progress. -/
theorem Progress.Agrees.step (agrees : progress.Agrees text position)
    (matched : Scanner.firstMatch? Terminal.scanner text progress.candidates = some found)
    (advanced : progress.advance? found.kind text = some next)
    (sound : (Token.ofTerminal found.kind found.piece).malformed? = none) :
    progress.Extends next position found.piece found.rest
      (Token.ofTerminal found.kind found.piece) := by
  have noNegation := noNegation_of_firstMatch? matched
  rcases Scanner.scan_of_firstMatch? matched with ⟨member, -, scanned⟩
  have ended := not_opening_of_mem_candidates agrees member
  rcases found with ⟨terminal, piece, rest⟩
  dsimp only at *
  cases simple : terminal.isSimple with
  | true => exact agrees.extends_simple simple scanned noNegation advanced sound
  | false =>
      match terminal, simple with
      | .negationOpen, _ =>
          cases advanced
          exact extends_opening rfl (skeleton_of_scan_negationOpen scanned) fun _ further => further
      | .negationClose, _ => exact extends_negationClose (ended (by decide)) scanned advanced
      | .comma, _ | .adjacent, _ | .child, _ | .sibling, _ =>
          cases advanced
          exact extends_opening rfl (skeleton_of_scan_padded scanned rfl)
            fun _ further => ⟨ended (by decide), further⟩
      | .descendant, _ =>
          cases advanced
          exact extends_opening rfl (skeleton_blank (of_scan_descendant scanned).1)
            fun _ further => ⟨ended (by decide), further⟩

end Steps

/-- The tokens that are read fit from every position that agrees. -/
theorem fits_of_tokensFrom {progress : Progress} {text : Text} {position : Position}
    {tokens : List Token} (read : tokensFrom progress text = .ok tokens)
    (sound : tokens.findSome? Token.malformed? = none) (agrees : progress.Agrees text position) :
    Fits position progress.openNegations tokens ∧
      skeleton text = skeleton (renderTokens tokens) := by
  fun_induction tokensFrom progress text generalizing position tokens with
  | case1 progress complete =>
      cases read
      simp only [Progress.complete, Bool.and_eq_true, Bool.not_eq_true', decide_eq_true_eq]
        at complete
      refine ⟨⟨?_, complete.2⟩, rfl⟩
      intro equal
      rw [agrees.wanted.mpr equal] at complete
      simp at complete
  | case2 => simp at read
  | case3 => simp at read
  | case4 => simp at read
  | case5 progress text _ found matched next advanced induction =>
      cases further : tokensFrom next found.rest with
      | error fault => simp [further, Except.map] at read
      | ok others =>
          rw [further] at read
          cases read
          rw [List.findSome?_cons] at sound
          split at sound
          · simp at sound
          · rename_i firstSound
            rcases agrees.step matched advanced firstSound with
              ⟨sameSkeleton, reached, nextAgrees, extend⟩
            rcases induction further sound nextAgrees with ⟨fits, rest⟩
            refine ⟨extend others fits, ?_⟩
            rw [← Scanner.splits_of_firstMatch? matched, skeleton_append, rest, sameSkeleton,
              renderTokens_cons, skeleton_append]

/-! ## Every selector that is read -/

/-- A selector that was read is formed, and its text has the skeleton of the
text that was read, which opened no more parentheses than the limit allows. -/
theorem formed_of_ofClean {config : Config} {text : Text} {selector : Selector}
    (read : ofClean config text = .ok selector) :
    Formed .whole selector ∧ skeleton text = skeleton selector.render ∧
      Brackets.round.check .selector config.maxDepth text = .ok () := by
  unfold ofClean at read
  split at read
  · simp at read
  · rename_i checked
    split at read
    · simp at read
    · rename_i tokens tokenized
      split at read
      · simp at read
      · rename_i sound
        cases read
        have agrees : (Progress.start text).Agrees text .opening :=
          ⟨by simp [Progress.start], by simp⟩
        rcases fits_of_tokensFrom tokenized sound agrees with ⟨fits, sameSkeleton⟩
        rcases formed_ofTokens fits with ⟨formed, equal⟩
        refine ⟨formed, ?_, checked⟩
        rw [sameSkeleton, ← renderTokens_toTokens, equal]

/-- A selector that was read is formed, and texts of its skeleton are nested no
deeper than the text that it was read from. -/
theorem formed_of_read {config : Config} {text : Text} {selector : Selector}
    (uncommented : Uncommented text) (read : Selector.read config text = .ok selector) :
    Formed .whole selector ∧ skeleton selector.render = skeleton text ∧
      ∀ other, Uncommented other → skeleton other = skeleton selector.render →
        Brackets.round.check .selector config.maxDepth other = .ok () := by
  rw [Selector.read, uncommented.clean] at read
  rcases formed_of_ofClean read with ⟨formed, sameSkeleton, checked⟩
  refine ⟨formed, by rw [← sameSkeleton, skeleton_trim], fun other otherUncommented equal => ?_⟩
  exact check_eq_of_skeleton_eq uncommented.trim otherUncommented (by decide)
    (sameSkeleton.trans equal.symm) checked

end ScopedMarkup.Css.Selector
