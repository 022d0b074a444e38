import ScopedMarkup.Proofs.Css.Sheet.Placement

/-! # What errors point at

An error that names a text points at that text. Errors of selectors are placed as if the
clean text of the prelude stood in the sheet, so they point beside it where a comment
begins in the prelude before the end of what they name.
-/

namespace ScopedMarkup

namespace Text

theorem drop_prefix_drop {left right : Text} (front : left <+: right) (index : Nat) :
    left.drop index <+: right.drop index := by
  rcases front with ⟨rest, rfl⟩
  rw [List.drop_append]
  exact List.prefix_append _ _

theorem trimEnd_prefix (text : Text) : text.trimEnd <+: text := by
  have suffix : trimStart text.reverse <:+ text.reverse := List.dropWhile_suffix isBlank
  rw [trimEnd, ← List.reverse_suffix, List.reverse_reverse]
  exact suffix

end Text

namespace Css

/-! ## What a reason names -/

/-- The text that a reason names. -/
def Reason.offence? : Reason → Option Text
  | .unexpectedCharacter character => some [character]
  | .unexpectedText text => some text
  | .unexpectedEnd | .tooDeep .. | .malformedAttribute _ => none

theorem Reason.prefix_of_unexpected {κ : Type} {scanner : κ → Scanner} {kinds : List κ}
    {text offence : Text} (names : (unexpected scanner kinds text).offence? = some offence) :
    offence <+: text := by
  unfold unexpected at names
  split at names
  · rename_i found matched
    cases names
    exact ⟨found.rest, Scanner.splits_of_firstMatch? matched⟩
  · split at names
    · cases names
    · cases names
      exact ⟨_, rfl⟩

/-- What the fault names stands where the source was left. -/
def Fault.Points (source : Text) (fault : Fault) : Prop :=
  ∀ offence, fault.reason.offence? = some offence →
    offence <+: fault.rest ∧ fault.rest <:+ source

namespace Fault.Points

variable {source : Text} {fault : Fault}

theorem unnamed (silent : fault.reason.offence? = none) : fault.Points source := by
  intro offence names
  rw [silent] at names
  cases names

theorem prefix_drop {offence : Text} (points : fault.Points source)
    (names : fault.reason.offence? = some offence) :
    offence <+: source.drop (Error.ofFault source fault).place.index := by
  rcases points offence names with ⟨begins, before, equal⟩
  have index : (Error.ofFault source fault).place.index = before.length := by
    change source.length - fault.rest.length = before.length
    rw [← equal, List.length_append, Nat.add_sub_cancel]
  rw [index, ← equal, List.drop_left]
  exact begins

end Fault.Points

theorem Brackets.points_of_check {brackets : Brackets} {nested : Nested} {limit : Nat}
    {text source : Text} {fault : Fault}
    (failed : brackets.check nested limit text = .error fault) : fault.Points source := by
  unfold check at failed
  split at failed
  · cases failed
    exact .unnamed rfl
  · cases failed

/-! ## Errors of selectors -/

namespace Selector

theorem points_of_tokensFrom {source text : Text} {progress : Progress} {fault : Fault}
    (left : text <:+ source) (failed : tokensFrom progress text = .error fault) :
    fault.Points source := by
  fun_induction tokensFrom progress text with
  | case1 => cases failed
  | case2 =>
      cases failed
      exact .unnamed rfl
  | case3 =>
      cases failed
      intro offence names
      exact ⟨Reason.prefix_of_unexpected names, left⟩
  | case4 progress text nonempty found matched refused =>
      cases failed
      intro offence names
      cases names
      exact ⟨⟨found.rest, Scanner.splits_of_firstMatch? matched⟩, left⟩
  | case5 progress text nonempty found matched next advanced induction =>
      have behind : found.rest <:+ text := ⟨found.piece, Scanner.splits_of_firstMatch? matched⟩
      exact induction (behind.trans left) (map_eq_error_iff.mp failed)

/-- An error of a selector points into the clean text. -/
theorem prefix_drop_of_read {config : Config} {text offence : Text} {error : ReadError}
    (failed : Selector.read config text = .error error)
    (names : error.reason.offence? = some offence) :
    offence <+: (clean text).drop (error.index?.getD 0) := by
  unfold Selector.read Selector.ofClean at failed
  split at failed
  · rename_i fault checked
    cases failed
    exact (Brackets.points_of_check checked).prefix_drop names
  · split at failed
    · rename_i fault tokenized
      cases failed
      exact (points_of_tokensFrom (List.suffix_refl _) tokenized).prefix_drop names
    · split at failed
      · cases failed
        cases names
      · cases failed

end Selector

/-! ## From the clean text to the text -/

/-- Up to its first comment, a text that begins with no blank is clean. -/
theorem clean_append_prefix {front behind : Text}
    (leaves : Text.Leaves isBlank (front ++ withoutComments behind))
    (apart : NoCommentIn front behind) :
    clean (front ++ behind) <+: front ++ withoutComments behind := by
  rw [clean, withoutComments_append apart, Text.trim, Text.trimStart_eq_of_leaves leaves]
  exact Text.trimEnd_prefix _

/-- A comment begins in the text before this index. -/
def CommentedBefore (text : Text) (index : Nat) : Prop :=
  ∃ front behind, text = front ++ behind ∧ (comment.scan behind).isSome = true ∧
    front.length < index

theorem Uncommented.not_commentedBefore {text : Text} (uncommented : Uncommented text)
    (index : Nat) : ¬ CommentedBefore text index := by
  rintro ⟨front, behind, rfl, found, -⟩
  rw [(uncommented.of_infix (List.suffix_append front behind).isInfix).scan_comment] at found
  cases found

/-- What stands at an index of the clean text stands there in the text as well, if no
comment begins before its end. -/
theorem prefix_drop_of_clean {text offence : Text} {index : Nat} (leaves : text.Leaves isBlank)
    (stands : offence <+: (clean text).drop index) :
    offence <+: text.drop index ∨ CommentedBefore text (index + offence.length) := by
  rcases exists_noCommentIn text with ⟨front, behind, rfl, apart, ends⟩
  rcases ends with rfl | found
  · have cleaned : clean (front ++ []) <+: front ++ withoutComments [] :=
      clean_append_prefix (by rwa [withoutComments_nil]) apart
    rw [withoutComments_nil] at cleaned
    exact .inl (stands.trans (Text.drop_prefix_drop cleaned index))
  · -- Up to the first comment, the clean text and the text are alike.
    by_cases inside : index + offence.length ≤ front.length
    · left
      cases front with
      | nil =>
          have empty : offence = [] := by
            rw [List.length_nil] at inside
            exact List.eq_nil_of_length_eq_zero (by omega)
          rw [empty]
          exact List.nil_prefix
      | cons first front =>
          have nonblank : isBlank first = false := Text.leaves_cons.mp leaves
          have cleaned := clean_append_prefix (Text.leaves_cons.mpr nonblank) apart
          have whole := stands.trans (Text.drop_prefix_drop cleaned index)
          have own : (first :: front).drop index <+:
              (first :: front ++ withoutComments behind).drop index :=
            Text.drop_prefix_drop (List.prefix_append _ _) index
          have fits : offence.length ≤ ((first :: front).drop index).length := by
            rw [List.length_drop]
            omega
          exact (List.prefix_of_prefix_length_le whole own fits).trans
            (Text.drop_prefix_drop (List.prefix_append _ _) index)
    · exact .inr ⟨front, behind, rfl, found, by omega⟩

/-! ## Errors of sheets -/

namespace Sheet

theorem points_of_rulesFrom {source text : Text} {progress : Progress} {fault : Fault}
    (left : text <:+ source) (failed : rulesFrom source progress text = .error fault) :
    fault.Points source := by
  fun_induction rulesFrom source progress text with
  | case1 => cases failed
  | case2 =>
      cases failed
      exact .unnamed rfl
  | case3 progress text =>
      cases failed
      intro offence names
      exact ⟨Reason.prefix_of_unexpected names, (skipGap_suffix text).trans left⟩
  | case4 progress text rest nonempty found matched =>
      cases failed
      intro offence names
      cases names
      exact ⟨⟨found.rest, Scanner.splits_of_firstMatch? matched⟩, (skipGap_suffix text).trans left⟩
  | case5 progress text rest nonempty found matched piece next advanced induction =>
      have behind : found.rest <:+ skipGap text :=
        ⟨found.piece, Scanner.splits_of_firstMatch? matched⟩
      exact induction ((behind.trans (skipGap_suffix text)).trans left) failed

/-- An error that names a text points at it in the sheet, or else it is about the selector
of a prelude in which a comment begins before the end of what is named. Then it points as
far into the clean text of the prelude as it should point into the prelude. -/
theorem offence_of_read {config : Config} {source offence : Text} {error : Error}
    (failed : Sheet.read config source = .error error)
    (names : error.reason.offence? = some offence) :
    offence <+: source.drop error.place.index ∨
      ∃ rules, rawRules source = .ok rules ∧ ∃ prelude ∈ Rule.preludesIn rules, ∃ index,
        error.place.index = prelude.index + index ∧
          offence <+: (clean prelude.text).drop index ∧
          CommentedBefore prelude.text (index + offence.length) := by
  unfold Sheet.read at failed
  split at failed
  · rename_i fault checked
    cases failed
    exact .inl ((Brackets.points_of_check checked).prefix_drop names)
  · split at failed
    · rename_i fault raw
      cases failed
      exact .inl ((points_of_rulesFrom (List.suffix_refl source) raw).prefix_drop names)
    · rename_i rules raw
      rcases Rule.exists_of_traverseAll_eq_error (map_eq_error_iff.mp failed) with
        ⟨prelude, member, own⟩
      rcases standsIn_of_rawRules raw prelude member with ⟨⟨before, after, equal, starts⟩, leaves⟩
      unfold preludeSelector at own
      split at own
      · cases own
      · rename_i inner read
        cases own
        have cleaned := Selector.prefix_drop_of_read read names
        rcases prefix_drop_of_clean leaves cleaned with stands | commented
        · left
          have further : prelude.text <+: source.drop prelude.index := by
            rw [equal, starts, List.append_assoc, List.drop_left]
            exact List.prefix_append _ _
          have reached := stands.trans (Text.drop_prefix_drop further (inner.index?.getD 0))
          rwa [List.drop_drop] at reached
        · exact .inr ⟨rules, raw, prelude, member, _, rfl, cleaned, commented⟩

/-- Comments between pieces make no difference, also before a selector in a block. -/
theorem offence_of_read_inside_block :
    ∃ error, Sheet.read .standard "@media a\x7b/* b */ c > !d\x7b\x7d\x7d" = .error error ∧
      error.reason.offence? = some ['!'] ∧
        ['!'] <+: ("@media a\x7b/* b */ c > !d\x7b\x7d\x7d" : Text).drop error.place.index := by
  have failed : Sheet.read .standard "@media a\x7b/* b */ c > !d\x7b\x7d\x7d" =
      .error ⟨.unexpectedCharacter '!', Place.of "@media a\x7b/* b */ c > !d\x7b\x7d\x7d" 21⟩ := by
    decide +kernel
  refine ⟨_, failed, rfl, ?_⟩
  rcases offence_of_read failed rfl with
    stands | ⟨rules, raw, prelude, member, index, -, -, commented⟩
  · exact stands
  · have read : rawRules "@media a\x7b/* b */ c > !d\x7b\x7d\x7d" =
        .ok [.conditional .media "a" [.style ⟨"c > !d", 17⟩ []]] := by
      decide +kernel
    rw [read] at raw
    cases raw
    rw [List.mem_singleton.mp member] at commented
    have uncommented : Uncommented "c > !d" := by decide
    exact absurd commented (uncommented.not_commentedBefore _)

/-- A comment in a prelude moves the error to the left by its length. -/
theorem exists_offence_beside :
    ∃ error, Sheet.read .standard "a/**/!\x7b\x7d" = .error error ∧
      error.reason.offence? = some ['!'] ∧
        ¬ ['!'] <+: ("a/**/!\x7b\x7d" : Text).drop error.place.index := by
  have failed : Sheet.read .standard "a/**/!\x7b\x7d" =
      .error ⟨.unexpectedCharacter '!', Place.of "a/**/!\x7b\x7d" 1⟩ := by
    decide +kernel
  exact ⟨_, failed, rfl, by decide⟩

end Sheet

end Css

end ScopedMarkup
