import ScopedMarkup.Markup.Cursor
import ScopedMarkup.Proofs.Markup.Fault
import ScopedMarkup.Proofs.Markup.Piece
import ScopedMarkup.Proofs.Markup.Run
import ScopedMarkup.Proofs.Text.Place

/-! # Where the errors of a source are placed

Every error names one index of the source. An unexpected token is the one that stands
there, an unexpected end is that of the source, and what is wrong in a style sheet
lies in the body of its element.
-/

namespace ScopedMarkup.Markup

variable {config : Config} {source text rest : Text} {fault : Fault}

/-! ## Pieces -/

/-- What stands at some place is allowed there, but not by the rules for elements. -/
def Cause.Refuses : Cause → Prop
  | .nestingTooDeep _ | .mismatchedClose _ _ | .duplicateAttribute _ => True
  | .unexpectedToken _ | .unexpectedEnd | .invalidStyle _ => False

theorem Cause.IsMismatch.refuses {cause : Cause} (mismatch : cause.IsMismatch) :
    cause.Refuses := by
  rcases mismatch with ⟨closing, opening, rfl⟩
  trivial

theorem Cause.IsDuplicate.refuses {cause : Cause} (repeats : cause.IsDuplicate) :
    cause.Refuses := by
  rcases repeats with ⟨name, rfl⟩
  trivial

theorem foundIn_of_readElement (failed : readElement config text = .error fault) :
    fault.FoundIn Cause.Refuses text ∨ ∃ afterName attributes following, following <:+ text ∧
      readName text = .ok ("style", afterName) ∧
      readAttributes config [] afterName = .ok ⟨attributes, false, following⟩ ∧
      fault.InBody following := by
  cases elementFails_of_readElement failed with
  | name unnamed => exact .inl (foundIn_of_readName unnamed)
  | attributes named wrong =>
      have found := (foundIn_of_readAttributes wrong).mono fun _ => Cause.IsDuplicate.refuses
      exact .inl (found.of_suffix (readName_suffix named))
  | style named ended stopped =>
      have suffix := (readAttributes_suffix ended).trans (readName_suffix named)
      rcases foundIn_of_readStyle stopped with found | inBody
      · exact .inl ((found.mono fun _ => Cause.IsMismatch.refuses).of_suffix suffix)
      · exact .inr ⟨_, _, _, suffix, named, ended, inBody⟩

/-- The fault of a piece is found in its text, or in the body of a style element that
begins there. -/
theorem foundIn_of_readPiece {openTags : List Text}
    (failed : readPiece config openTags text = .error fault) :
    fault.FoundIn Cause.Refuses text ∨ ∃ afterName attributes following, following <:+ text ∧
      openTags.length < config.maxDepth ∧ (Token.first text).kind = .lessThan ∧
      readName (Token.rest text) = .ok ("style", afterName) ∧
      readAttributes config [] afterName = .ok ⟨attributes, false, following⟩ ∧
      fault.InBody following := by
  cases pieceFails_of_readPiece failed with
  | slot _ unclosed =>
      exact .inl ((foundIn_of_expect unclosed).of_suffix
        ((Token.capture_suffix _ _).trans (Token.rest_suffix text)))
  | tooDeep => exact .inl (.own trivial (List.suffix_refl text))
  | element opens shallow stopped =>
      rcases foundIn_of_readElement stopped with
        found | ⟨afterName, attributes, following, suffix, named, ended, inBody⟩
      · exact .inl (found.of_suffix (Token.rest_suffix text))
      · exact .inr ⟨afterName, attributes, following, suffix.trans (Token.rest_suffix text),
          shallow, opens, named, ended, inBody⟩
  | unopened => exact .inl (.unexpected (List.suffix_refl text))
  | closing _ _ wrong =>
      have found := (foundIn_of_readClosing wrong).mono fun _ => Cause.IsMismatch.refuses
      exact .inl (found.of_suffix (Token.rest_suffix text))

/-! ## Sources -/

/-- Reading the source comes to an open style tag that goes up to this text. -/
def OpensStyle (config : Config) (source text : Text) : Prop :=
  ∃ progress before afterName attributes,
    Reached config source progress before ∧ progress.openTags.length < config.maxDepth ∧
      (Token.first before.trimStart).kind = .lessThan ∧
      readName (Token.rest before.trimStart) = .ok ("style", afterName) ∧
      readAttributes config [] afterName = .ok ⟨attributes, false, text⟩

/-- The body of a style element stands in the source behind this text. -/
def IsStyleBody (config : Config) (source before body : Text) : Prop :=
  ∃ rest, source = before ++ (body ++ rest) ∧ OpensStyle config source (body ++ rest) ∧
    EndsBody body rest

/-- What a fault of a whole source is. -/
theorem foundIn_of_readFrom (failed : readFrom config .start source = .error fault) :
    fault.FoundIn Cause.Refuses source ∨
      ∃ following, following <:+ source ∧ OpensStyle config source following ∧
        fault.InBody following := by
  rcases Reached.start.exists_of_error failed with
    ⟨last, text, reached, ⟨-, rfl⟩ | ⟨-, readOne⟩⟩
  · exact .inl (.unexpected List.nil_suffix)
  · have suffix : text.trimStart <:+ source :=
      (List.dropWhile_suffix isBlank).trans reached.suffix
    rcases foundIn_of_readPiece readOne with
      found | ⟨afterName, attributes, following, inner, shallow, opens, named, ended, inBody⟩
    · exact .inl (found.of_suffix suffix)
    · exact .inr ⟨following, inner.trans suffix,
        ⟨last, text, afterName, attributes, reached, shallow, opens, named, ended⟩, inBody⟩

/-- A fault in a body that is left of the source has its index between the ends of it. -/
theorem exists_isStyleBody {following : Text} (left : following <:+ source)
    (opens : OpensStyle config source following) (inBody : fault.InBody following) :
    (∃ reason, fault.cause = .invalidStyle reason) ∧
      ∃ before body, IsStyleBody config source before body ∧
        before.length ≤ source.length - fault.rest.length ∧
        source.length - fault.rest.length ≤ before.length + body.length := by
  rcases left with ⟨before, rfl⟩
  rcases inBody with ⟨body, rest, reason, index, rfl, isBody, within, rfl⟩
  refine ⟨⟨reason, rfl⟩, before, body, ⟨rest, rfl, opens, isBody⟩, ?_⟩
  simp only [List.length_append, List.length_drop]
  omega

/-- The cursor finds a token where a text begins that is left of the source. -/
theorem current_of_suffix (left : rest <:+ source) (nonempty : rest ≠ []) :
    source.length - rest.length < source.length ∧
      Cursor.current ⟨source, source.length - rest.length⟩ =
        ⟨Token.first rest, source.length - rest.length⟩ := by
  have positive := List.length_pos_iff.mpr nonempty
  have within := left.length_le
  have inside : source.length - rest.length < source.length := by omega
  refine ⟨inside, ?_⟩
  rw [Cursor.current, if_neg (by simpa [Cursor.atEnd] using inside), Cursor.rest,
    ← List.suffix_iff_eq_drop.mp left]

/-- The error of a source names an index of it: its count of bytes, its line and its
column are those of the text before that index. An unexpected end is that of the source,
an unexpected token stands at the index, and what is wrong in a sheet lies in the body
of a style element. -/
theorem exists_index_of_read_eq_error {error : Error}
    (failed : read config source = .error error) :
    ∃ index ≤ source.length,
      error.place =
        ⟨index, (String.ofList (source.take index)).utf8ByteSize,
          ⟨(source.take index).count '\n' + 1, (Text.lastLine (source.take index)).length + 1⟩⟩ ∧
      (error.cause = .unexpectedEnd → index = source.length) ∧
      (∀ token, error.cause = .unexpectedToken token →
        index < source.length ∧ Cursor.current ⟨source, index⟩ = ⟨token, index⟩ ∧
          error.message = "Unexpected token " ++ token.kind.name ++ " " ++
            Text.quoted token.value ++ " at " ++ error.place.location.render) ∧
      ∀ reason, error.cause = .invalidStyle reason →
        ∃ before body, IsStyleBody config source before body ∧
          before.length ≤ index ∧ index ≤ before.length + body.length := by
  unfold read at failed
  split at failed
  · rename_i fault stopped
    cases failed
    refine ⟨_, Nat.sub_le _ _, Place.of_eq (Nat.sub_le _ _), ?_⟩
    rcases foundIn_of_readFrom stopped with found | ⟨following, left, opens, inBody⟩
    · refine ⟨fun atEnd => ?_, fun token named => ?_, fun reason invalid => ?_⟩
      · cases found with
        | unexpectedEnd => exact Nat.sub_zero _
        | unexpectedToken => cases atEnd
        | own refuses =>
            cases atEnd
            cases refuses
      · cases found with
        | unexpectedEnd => cases named
        | unexpectedToken nonempty left =>
            cases named
            have stands := current_of_suffix left nonempty
            exact ⟨stands.1, stands.2, rfl⟩
        | own refuses =>
            cases named
            cases refuses
      · cases found with
        | unexpectedEnd | unexpectedToken => cases invalid
        | own refuses =>
            cases invalid
            cases refuses
    · rcases exists_isStyleBody left opens inBody with ⟨⟨reason, isStyle⟩, within⟩
      refine ⟨fun atEnd => ?_, fun token named => ?_, fun _ _ => within⟩
      · cases isStyle.symm.trans atEnd
      · cases isStyle.symm.trans named
  · cases failed

/-- The error of a selector is placed through the sheet that holds it. -/
theorem exists_index_of_read_eq_error_selector :
    read .standard "<b ü='1'/>\n<style>a\x7b\x7d p/*é*/ > \x7b\x7d</style>" =
        .error ⟨.invalidStyle .unexpectedEnd, ⟨23, 24, ⟨2, 13⟩⟩⟩ ∧
      ∃ before body,
        IsStyleBody .standard "<b ü='1'/>\n<style>a\x7b\x7d p/*é*/ > \x7b\x7d</style>" before body ∧
          before.length ≤ 23 ∧ 23 ≤ before.length + body.length := by
  have failed : read .standard "<b ü='1'/>\n<style>a\x7b\x7d p/*é*/ > \x7b\x7d</style>" =
      .error ⟨.invalidStyle .unexpectedEnd, ⟨23, 24, ⟨2, 13⟩⟩⟩ := by decide +kernel
  rcases exists_index_of_read_eq_error failed with ⟨index, -, place, -, -, inBody⟩
  cases congrArg Place.index place
  exact ⟨failed, inBody _ rfl⟩

end ScopedMarkup.Markup
