import ScopedMarkup.Markup.Piece
import ScopedMarkup.Proofs.Css.Sheet.Placement
import ScopedMarkup.Proofs.Markup.Token

/-! # Faults

What each reading function can find wrong, and the text it finds it at: what stands
there is not what is wanted, or a tag breaks a rule of its own, or the body of a style
element is no sheet.
-/

namespace ScopedMarkup.Markup

variable {own other : Cause → Prop} {config : Config} {text rest : Text} {fault : Fault}

/-- A tag closes another element than the one that is open. -/
def Cause.IsMismatch (cause : Cause) : Prop :=
  ∃ closing opening, cause = .mismatchedClose closing opening

/-- A tag repeats an attribute. -/
def Cause.IsDuplicate (cause : Cause) : Prop := ∃ name, cause = .duplicateAttribute name

/-- The faults that can be found in a text, which are about what stands there or have one
of these causes. -/
inductive Fault.FoundIn (own : Cause → Prop) (text : Text) : Fault → Prop where
  | unexpectedEnd : FoundIn own text ⟨.unexpectedEnd, []⟩
  | unexpectedToken {rest : Text} :
      rest ≠ [] → rest <:+ text → FoundIn own text ⟨.unexpectedToken (Token.first rest), rest⟩
  | own {cause : Cause} {rest : Text} : own cause → rest <:+ text → FoundIn own text ⟨cause, rest⟩

namespace Fault.FoundIn

theorem unexpected (suffix : rest <:+ text) : (Fault.unexpected rest).FoundIn own text := by
  by_cases empty : rest = []
  · rw [Fault.unexpected, if_pos empty, empty]
    exact .unexpectedEnd
  · rw [Fault.unexpected, if_neg empty]
    exact .unexpectedToken empty suffix

theorem of_suffix (found : fault.FoundIn own rest) (suffix : rest <:+ text) :
    fault.FoundIn own text := by
  cases found with
  | unexpectedEnd => exact .unexpectedEnd
  | unexpectedToken nonempty inner => exact .unexpectedToken nonempty (inner.trans suffix)
  | own isOwn inner => exact .own isOwn (inner.trans suffix)

theorem mono (found : fault.FoundIn own text) (further : ∀ cause, own cause → other cause) :
    fault.FoundIn other text := by
  cases found with
  | unexpectedEnd => exact .unexpectedEnd
  | unexpectedToken nonempty suffix => exact .unexpectedToken nonempty suffix
  | own isOwn suffix => exact .own (further _ isOwn) suffix

theorem not_isDuplicate (found : fault.FoundIn Cause.IsMismatch text) :
    ¬ fault.cause.IsDuplicate := by
  rintro ⟨name, cause⟩
  cases found with
  | unexpectedEnd | unexpectedToken => cases cause
  | own mismatch =>
      rcases mismatch with ⟨closing, opening, other⟩
      cases cause.symm.trans other

end Fault.FoundIn

/-! ## Tags -/

theorem foundIn_of_expect {kind : TokenKind} (failed : Token.expect kind text = .error fault) :
    fault.FoundIn own text := by
  unfold Token.expect at failed
  split at failed
  · cases failed
  · cases failed
    exact .unexpected (List.suffix_refl text)

theorem foundIn_of_readName (failed : readName text = .error fault) : fault.FoundIn own text := by
  unfold readName at failed
  split at failed
  · cases failed
    exact .unexpected (List.suffix_refl text)
  · cases failed

theorem foundIn_of_readValue (failed : readValue text = .error fault) : fault.FoundIn own text := by
  unfold readValue at failed
  simp only at failed
  split at failed
  · exact (foundIn_of_expect (map_eq_error_iff.mp failed)).of_suffix
      ((Token.capture_suffix _ _).trans (Token.rest_suffix text))
  · cases failed
    exact .unexpected (List.suffix_refl text)

theorem foundIn_of_readAttribute (failed : readAttribute text = .error fault) :
    fault.FoundIn own text := by
  unfold readAttribute at failed
  split at failed
  · rename_i named
    cases failed
    exact foundIn_of_readName named
  · rename_i name afterName named
    split at failed
    · exact (foundIn_of_readValue (map_eq_error_iff.mp failed)).of_suffix
        ((Token.rest_suffix afterName).trans (readName_suffix named))
    · cases failed

theorem foundIn_of_readAttributes {before : List Attribute}
    (failed : readAttributes config before text = .error fault) :
    fault.FoundIn Cause.IsDuplicate text := by
  fun_induction readAttributes config before text with
  | case1 | case2 => cases failed
  | case3 before text trimmed fault readOne =>
      cases failed
      exact (foundIn_of_readAttribute readOne).of_suffix (List.dropWhile_suffix isBlank)
  | case4 before text trimmed entry =>
      cases failed
      exact .own ⟨entry.name, rfl⟩ (List.dropWhile_suffix isBlank)
  | case5 before text trimmed entry rest readOne _ _ _ induction =>
      exact (induction failed).of_suffix
        ((readAttribute_suffix readOne).1.trans (List.dropWhile_suffix isBlank))

theorem foundIn_of_readClosing {tag : Text}
    (failed : readClosing config tag text = .error fault) :
    fault.FoundIn Cause.IsMismatch text := by
  unfold readClosing at failed
  split at failed
  · rename_i named
    cases failed
    exact foundIn_of_readName named
  · rename_i name afterName named
    split at failed
    · rename_i closed
      cases failed
      exact (foundIn_of_expect closed).of_suffix
        ((List.dropWhile_suffix isBlank).trans (readName_suffix named))
    · split at failed
      · cases failed
        exact .own ⟨name, tag, rfl⟩ (List.suffix_refl text)
      · cases failed

/-! ## Bodies of style elements -/

/-- The text behind an open style tag falls into the body of the element, which ends
before the first closing tag with the word `style`, and the rest. -/
structure EndsBody (body rest : Text) : Prop where
  captured : Token.capture (Token.startsClosing "style") (body ++ rest) = (body, rest)
  closes : Token.startsClosing "style" rest = true

theorem Token.stops_of_capture (stops : Text → Bool) (text : Text) :
    Token.Stops stops (Token.capture stops text).2 := by
  fun_induction Token.capture stops text with
  | case1 => exact .inl rfl
  | case2 text nonempty stopped => exact .inr stopped
  | case3 text nonempty goesOn more remaining equal induction =>
      rwa [equal] at induction

/-- The fault of a sheet lies in the body that it was read from. -/
def Fault.InBody (text : Text) (fault : Fault) : Prop :=
  ∃ body rest reason index, text = body ++ rest ∧ EndsBody body rest ∧ index ≤ body.length ∧
    fault = ⟨.invalidStyle reason, text.drop index⟩

/-- A body that a closing tag was found behind ends where it should. -/
theorem endsBody_of_capture {body following : Text}
    (captured : Token.capture (Token.startsClosing "style") text = (body, rest))
    (opened : Token.expect .closeTag rest = .ok following) :
    text = body ++ rest ∧ EndsBody body rest := by
  have split := Token.capture_splits (Token.startsClosing "style") text
  have stopped := Token.stops_of_capture (Token.startsClosing "style") text
  rw [captured] at split stopped
  refine ⟨split.symm, by rwa [split], ?_⟩
  rcases stopped with rfl | closes
  · cases opened
  · exact closes

theorem foundIn_of_readStyle {attributes : List Attribute}
    (failed : readStyle config attributes text = .error fault) :
    fault.FoundIn Cause.IsMismatch text ∨ fault.InBody text := by
  unfold readStyle at failed
  cases captured : Token.capture (Token.startsClosing "style") text with
  | mk body rest =>
      have suffix : rest <:+ text := by
        have own := Token.capture_suffix (Token.startsClosing "style") text
        rwa [captured] at own
      rw [captured] at failed
      simp only at failed
      split at failed
      · rename_i opened
        cases failed
        exact .inl ((foundIn_of_expect opened).of_suffix suffix)
      · rename_i following opened
        split at failed
        · rename_i closed
          cases failed
          exact .inl ((foundIn_of_readClosing closed).of_suffix
            ((Token.expect_suffix opened).trans suffix))
        · split at failed
          · rename_i error invalid
            cases failed
            rcases endsBody_of_capture captured opened with ⟨split, ends⟩
            rcases Css.Sheet.exists_place_of_read invalid with ⟨index, within, place⟩
            refine .inr ⟨body, rest, error.reason, index, split, ends, within, ?_⟩
            rw [place]
            rfl
          · cases failed

end ScopedMarkup.Markup
