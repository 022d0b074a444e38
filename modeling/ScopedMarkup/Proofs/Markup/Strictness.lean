import ScopedMarkup.Proofs.Css.Strictness
import ScopedMarkup.Proofs.Markup.Run

/-! # Stricter reading

Strict reading and a lower limit on nesting only add errors of their own. Two runs
over one source, of which one has the stricter settings, go on in step until the
stricter one stops with such an error.
-/

namespace ScopedMarkup.Markup

variable {tight loose : Config}

/-- The causes that only the stricter settings give. -/
def Cause.OwnTo (tight loose : Config) : Cause → Prop
  | .mismatchedClose _ _ | .duplicateAttribute _ => loose.strict = false ∧ tight.strict = true
  | .nestingTooDeep limit => tight.maxDepth < loose.maxDepth ∧ limit = tight.maxDepth
  | .invalidStyle reason => reason.OwnTo tight loose
  | .unexpectedToken _ | .unexpectedEnd => False

theorem Cause.OwnTo.of_same_depth {cause : Cause} (own : cause.OwnTo tight loose)
    (same : tight.maxDepth = loose.maxDepth) :
    (∃ closing opening, cause = .mismatchedClose closing opening) ∨
      ∃ name, cause = .duplicateAttribute name := by
  have noLower : ¬ tight.maxDepth < loose.maxDepth := by omega
  cases cause with
  | mismatchedClose closing opening => exact .inl ⟨closing, opening, rfl⟩
  | duplicateAttribute name => exact .inr ⟨name, rfl⟩
  | nestingTooDeep limit => exact absurd own.1 noLower
  | invalidStyle reason => exact absurd own.1 noLower
  | unexpectedToken token => exact own.elim
  | unexpectedEnd => exact own.elim

theorem Cause.OwnTo.of_same_strict {cause : Cause} (own : cause.OwnTo tight loose)
    (same : tight.strict = loose.strict) :
    cause = .nestingTooDeep tight.maxDepth ∨
      cause = .invalidStyle (.tooDeep .blocks (tight.maxDepth + 1)) ∨
      cause = .invalidStyle (.tooDeep .selector tight.maxDepth) := by
  have noStricter : ¬ (loose.strict = false ∧ tight.strict = true) := by simp [same]
  cases cause with
  | mismatchedClose closing opening => exact absurd own noStricter
  | duplicateAttribute name => exact absurd own noStricter
  | nestingTooDeep limit => exact .inl (congrArg _ own.2)
  | invalidStyle reason => exact .inr (own.2.imp (congrArg _) (congrArg _))
  | unexpectedToken token => exact own.elim
  | unexpectedEnd => exact own.elim

/-- The outcomes are the same, or the first is a fault that only the stricter
settings give. -/
abbrev Agree (tight loose : Config) {α : Type} : (left right : Except Fault α) → Prop :=
  AgreeUpTo fun fault => fault.cause.OwnTo tight loose

/-! ## Tags -/

/-- A check that only strict reading makes. -/
theorem agree_check {α : Type} (stricter : tight.Stricter loose) (offends : Bool) {fault : Fault}
    {left right : Except Fault α}
    (own : loose.strict = false → tight.strict = true → fault.cause.OwnTo tight loose)
    (agree : Agree tight loose left right) :
    Agree tight loose (if tight.strict && offends then .error fault else left)
      (if loose.strict && offends then .error fault else right) := by
  cases offends with
  | false => simpa using agree
  | true =>
      cases looseStrict : loose.strict with
      | true => simpa [stricter.strict looseStrict] using AgreeUpTo.refl _ _
      | false =>
          cases tightStrict : tight.strict with
          | true => exact .ofError (own looseStrict tightStrict)
          | false => simpa using agree

theorem readAttributes_eq {config : Config} {before : List Attribute} {text : Text}
    (noSelfClose : (Token.first text.trimStart).kind ≠ .selfClose)
    (noGreaterThan : (Token.first text.trimStart).kind ≠ .greaterThan) :
    readAttributes config before text =
      match readAttribute text.trimStart with
      | .error fault => .error fault
      | .ok (entry, rest) =>
          if config.strict && before.any (·.name = entry.name) then
            .error ⟨.duplicateAttribute entry.name, text.trimStart⟩
          else readAttributes config (before ++ [entry]) rest := by
  rw [readAttributes]
  split
  · contradiction
  · contradiction
  · split
    · rename_i failed
      rw [failed]
    · rename_i readOne
      rw [readOne]

theorem agree_readAttributes (stricter : tight.Stricter loose) (before : List Attribute)
    (text : Text) :
    Agree tight loose (readAttributes tight before text) (readAttributes loose before text) := by
  by_cases selfClose : (Token.first text.trimStart).kind = .selfClose
  · rw [readAttributes, readAttributes, selfClose]
    exact .refl ..
  · by_cases greaterThan : (Token.first text.trimStart).kind = .greaterThan
    · rw [readAttributes, readAttributes, greaterThan]
      exact .refl ..
    · rw [readAttributes_eq selfClose greaterThan, readAttributes_eq selfClose greaterThan]
      cases readOne : readAttribute text.trimStart with
      | error fault => exact .refl ..
      | ok found =>
          exact agree_check stricter _ (fun lenient strict => ⟨lenient, strict⟩)
            (agree_readAttributes stricter (before ++ [found.1]) found.2)
termination_by text.length
decreasing_by
  exact Nat.lt_of_lt_of_le (readAttribute_suffix readOne).2
    (List.dropWhile_suffix isBlank).length_le

theorem agree_readClosing (stricter : tight.Stricter loose) (tag text : Text) :
    Agree tight loose (readClosing tight tag text) (readClosing loose tag text) := by
  unfold readClosing
  cases readName text with
  | error fault => exact .refl ..
  | ok named =>
      rcases named with ⟨name, rest⟩
      simp only
      cases Token.expect .greaterThan rest.trimStart with
      | error fault => exact .refl ..
      | ok following =>
          exact agree_check stricter _ (fun lenient strict => ⟨lenient, strict⟩) (.refl ..)

/-! ## Pieces -/

theorem agree_readStyle (stricter : tight.Stricter loose) (attributes : List Attribute)
    (text : Text) :
    Agree tight loose (readStyle tight attributes text) (readStyle loose attributes text) := by
  unfold readStyle
  rcases Token.capture (Token.startsClosing "style") text with ⟨body, rest⟩
  simp only
  cases Token.expect .closeTag rest with
  | error fault => exact .refl ..
  | ok following =>
      simp only
      rcases agree_readClosing stricter "style" following with equal | ⟨fault, failed, own⟩
      · rw [equal]
        cases readClosing loose "style" following with
        | error fault => exact .refl ..
        | ok remaining =>
            simp only
            rcases Css.Sheet.agree_read stricter body with same | ⟨error, failed, own⟩
            · rw [same]
              exact .refl ..
            · rw [failed]
              exact .ofError own
      · rw [failed]
        exact .ofError own

theorem agree_readElement (stricter : tight.Stricter loose) (text : Text) :
    Agree tight loose (readElement tight text) (readElement loose text) := by
  unfold readElement
  cases readName text with
  | error fault => exact .refl ..
  | ok named =>
      simp only
      rcases agree_readAttributes stricter [] named.2 with equal | ⟨fault, failed, own⟩
      · rw [equal]
        cases readAttributes loose [] named.2 with
        | error fault => exact .refl ..
        | ok ended =>
            simp only
            by_cases isStyle : named.1 = "style"
            · rw [if_pos isStyle, if_pos isStyle]
              cases ended.closesItself with
              | true => exact .refl ..
              | false => exact agree_readStyle stricter ended.attributes ended.rest
            · rw [if_neg isStyle, if_neg isStyle]
              exact .refl ..
      · rw [failed]
        exact .ofError own

theorem agree_readPiece (stricter : tight.Stricter loose) (openTags : List Text) (text : Text) :
    Agree tight loose (readPiece tight openTags text) (readPiece loose openTags text) := by
  unfold readPiece
  cases (Token.first text).kind with
  | lessThan =>
      simp only
      have element := agree_readElement stricter (Token.rest text)
      rcases Nat.eq_or_lt_of_le stricter.maxDepth with same | lower
      · rw [same]
        by_cases deep : openTags.length ≥ loose.maxDepth
        · rw [if_pos deep, if_pos deep]
          exact .refl ..
        · rw [if_neg deep, if_neg deep]
          exact element
      · by_cases deep : openTags.length ≥ tight.maxDepth
        · rw [if_pos deep]
          exact .ofError ⟨lower, rfl⟩
        · rw [if_neg deep, if_neg (fun looseDeep => deep (Nat.le_trans stricter.maxDepth looseDeep))]
          exact element
  | closeTag =>
      cases openTags with
      | nil => exact .refl ..
      | cons tag openTags => exact (agree_readClosing stricter tag (Token.rest text)).map _
  | _ => exact .refl ..

/-! ## Sources -/

/-- Looser settings come to where stricter ones come to. -/
theorem Reached.loosen (stricter : tight.Stricter loose) {source text : Text}
    {progress : Progress} (reached : Reached tight source progress text) :
    Reached loose source progress text := by
  induction reached with
  | start => exact .start
  | piece _ nonempty readOne induction =>
      exact induction.piece nonempty ((agree_readPiece stricter _ _).ok_of_ok readOne)

/-- The two runs go on in step: after a piece that both have read, they have come to
the same. -/
theorem agree_readFrom (stricter : tight.Stricter loose) (progress : Progress) (text : Text) :
    Agree tight loose (readFrom tight progress text) (readFrom loose progress text) := by
  by_cases nonempty : text.trimStart = []
  · rw [readFrom, readFrom, dif_pos nonempty, dif_pos nonempty]
    exact .refl ..
  · rw [readFrom_eq nonempty, readFrom_eq nonempty]
    -- Equal pieces bring both runs to the same progress; else the stricter one stops here.
    rcases agree_readPiece stricter progress.openTags text.trimStart with
      equal | ⟨fault, failed, own⟩
    · rw [equal]
      cases readOne : readPiece loose progress.openTags text.trimStart with
      | error fault => exact .refl ..
      | ok found => exact agree_readFrom stricter (progress.add found.1) found.2
    · rw [failed]
      exact .ofError own
termination_by text.length
decreasing_by
  exact Nat.lt_of_lt_of_le (readPiece_shortens nonempty readOne)
    (List.dropWhile_suffix isBlank).length_le

/-- Stricter settings change the outcome of reading a source only to an error of
their own. -/
theorem agree_read (stricter : tight.Stricter loose) (source : Text) :
    AgreeUpTo (fun error => error.cause.OwnTo tight loose) (read tight source)
      (read loose source) := by
  unfold read
  rcases agree_readFrom stricter .start source with equal | ⟨fault, failed, own⟩
  · rw [equal]
    exact .refl ..
  · rw [failed]
    exact .ofError own

/-- Strict reading gives what lenient reading gives, or an error about a closing tag or
a repeated attribute. A lower limit gives what a higher one gives, or an error about
that limit. So what stricter settings accept, looser ones accept as the same tree. -/
theorem read_stricter (source : Text) :
    (∀ config : Config,
      read { config with strict := true } source = read { config with strict := false } source ∨
        ∃ error, read { config with strict := true } source = .error error ∧
          ((∃ closing opening, error.cause = .mismatchedClose closing opening) ∨
            ∃ name, error.cause = .duplicateAttribute name)) ∧
    (∀ low high : Config, low.strict = high.strict → low.maxDepth ≤ high.maxDepth →
      read low source = read high source ∨
        ∃ error, read low source = .error error ∧
          (error.cause = .nestingTooDeep low.maxDepth ∨
            error.cause = .invalidStyle (.tooDeep .blocks (low.maxDepth + 1)) ∨
            error.cause = .invalidStyle (.tooDeep .selector low.maxDepth))) ∧
    ∀ (tight loose : Config) (tree : Node Css.Selector), tight.Stricter loose →
      read tight source = .ok tree → read loose source = .ok tree := by
  refine ⟨fun config => ?_, fun low high sameStrict le => ?_, fun tight loose tree stricter => ?_⟩
  · have stricter : Config.Stricter { config with strict := true } { config with strict := false } :=
      ⟨fun _ => rfl, Nat.le_refl _⟩
    rcases agree_read stricter source with same | ⟨error, failed, own⟩
    · exact .inl same
    · exact .inr ⟨error, failed, own.of_same_depth rfl⟩
  · have stricter : low.Stricter high := ⟨fun strict => sameStrict.trans strict, le⟩
    rcases agree_read stricter source with same | ⟨error, failed, own⟩
    · exact .inl same
    · exact .inr ⟨error, failed, own.of_same_strict sameStrict⟩
  · exact (agree_read stricter source).ok_of_ok

theorem read_stricter_nested_blocks :
    (read ⟨"m", 1, false, by decide, by decide⟩ "<p><q/></p>" = read .standard "<p><q/></p>" ∨
      ∃ error, read ⟨"m", 1, false, by decide, by decide⟩ "<p><q/></p>" = .error error ∧
        (error.cause = .nestingTooDeep 1 ∨ error.cause = .invalidStyle (.tooDeep .blocks 2) ∨
          error.cause = .invalidStyle (.tooDeep .selector 1))) ∧
    read .standard "<p a><style>@media x\x7bb\x7b\x7d\x7d</style></p>" =
      .ok (.element "p" [⟨"a", none⟩] [.style []
        ⟨[.conditional .media "x" [.style (.simple (.type "b")) []]]⟩]) :=
  ⟨(read_stricter "<p><q/></p>").2.1 ⟨"m", 1, false, by decide, by decide⟩ .standard rfl
      (by decide),
    (read_stricter _).2.2 ⟨"m", 2, true, by decide, by decide⟩ .standard _
      ⟨fun strict => absurd strict (by decide), by decide⟩ (by decide +kernel)⟩

end ScopedMarkup.Markup
