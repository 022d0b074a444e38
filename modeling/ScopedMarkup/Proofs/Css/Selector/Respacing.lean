import ScopedMarkup.Proofs.Css.Selector.RoundTrip

/-! # Selectors with other blanks

Blanks around the sign of a combinator, around a comma and inside the parentheses
of a negation make no difference. A selector that was read is read again from its
text however these blanks are chosen.
-/

namespace ScopedMarkup.Css.Selector

/-! ## Respaced texts -/

mutual
/-- The text of a selector with any blanks around each sign and each comma and
inside the parentheses of each negation, and at least one blank for each descendant
combinator. -/
def Respaced : Selector → Text → Prop
  | .simple part, text => text = part.render
  | .negation argument, text =>
      ∃ before inner after : Text, text = (":not(" : Text) ++ before ++ inner ++ after ++ [')'] ∧
        before.Blank ∧ Respaced argument inner ∧ after.Blank
  | .combine combinator left right, text =>
      ∃ first sign second : Text, text = first ++ sign ++ second ∧ Respaced left first ∧
        Spells (.combinator combinator) sign ∧ Respaced right second
  | .group members, text => RespacedApart members text
  | .compound members, text => RespacedAll members text
  | .foreign _, text => text = []

/-- The members of a compound follow each other without a blank. -/
def RespacedAll : List Selector → Text → Prop
  | [], text => text = []
  | member :: rest, text =>
      ∃ first others : Text, text = first ++ others ∧ Respaced member first ∧
        RespacedAll rest others

/-- The members of a group have commas between them. -/
def RespacedApart : List Selector → Text → Prop
  | [], text => text = []
  | member :: rest, text =>
      ∃ first others : Text, text = first ++ others ∧ Respaced member first ∧
        RespacedAfter rest others

/-- The members of a group after its first, each after a comma. -/
def RespacedAfter : List Selector → Text → Prop
  | [], text => text = []
  | member :: rest, text =>
      ∃ comma first others : Text, text = comma ++ first ++ others ∧ Spells .comma comma ∧
        Respaced member first ∧ RespacedAfter rest others
end

/-! ## Respaced texts are the spellings of the tokens -/

theorem spelled_cons_iff {token : Token} {tokens : List Token} {text : Text} :
    Spelled (token :: tokens) text ↔
      ∃ piece rest, text = piece ++ rest ∧ Spells token piece ∧ Spelled tokens rest := Iff.rfl

theorem spelled_singleton_iff {token : Token} {text : Text} :
    Spelled [token] text ↔ Spells token text := by
  rw [spelled_cons_iff]
  constructor
  · rintro ⟨piece, rest, rfl, spells, rfl⟩
    rwa [List.append_nil]
  · intro spells
    exact ⟨text, [], (List.append_nil text).symm, spells, rfl⟩

theorem spelled_append_iff {left right : List Token} {text : Text} :
    Spelled (left ++ right) text ↔
      ∃ first second, text = first ++ second ∧ Spelled left first ∧ Spelled right second := by
  induction left generalizing text with
  | nil =>
      constructor
      · intro spelled
        exact ⟨[], text, rfl, rfl, spelled⟩
      · rintro ⟨_, second, rfl, rfl, spelled⟩
        exact spelled
  | cons token left induction =>
      rw [List.cons_append, spelled_cons_iff]
      constructor
      · rintro ⟨piece, rest, rfl, spells, spelled⟩
        rcases induction.mp spelled with ⟨first, second, rfl, front, back⟩
        exact ⟨piece ++ first, second, (List.append_assoc ..).symm,
          ⟨piece, first, rfl, spells, front⟩, back⟩
      · rintro ⟨_, second, rfl, ⟨piece, first, rfl, spells, front⟩, back⟩
        exact ⟨piece, first ++ second, List.append_assoc .., spells,
          induction.mpr ⟨first, second, rfl, front, back⟩⟩

theorem spelled_negation_iff {tokens : List Token} {text : Text} :
    Spelled (.negationOpen :: tokens ++ [.negationClose]) text ↔
      ∃ before inner after : Text, text = (":not(" : Text) ++ before ++ inner ++ after ++ [')'] ∧
        before.Blank ∧ Spelled tokens inner ∧ after.Blank := by
  rw [spelled_append_iff]
  constructor
  · rintro ⟨_, close, rfl, ⟨_, inner, rfl, ⟨before, rfl, blankBefore⟩, spelled⟩, closes⟩
    rcases spelled_singleton_iff.mp closes with ⟨after, rfl, blankAfter⟩
    refine ⟨before, inner, after, ?_, blankBefore, spelled, blankAfter⟩
    simp only [List.append_assoc]
    rfl
  · rintro ⟨before, inner, after, rfl, blankBefore, spelled, blankAfter⟩
    refine ⟨(":not(" : Text) ++ before ++ inner, after ++ [')'], List.append_assoc ..,
      ⟨_, inner, rfl, ⟨before, rfl, blankBefore⟩, spelled⟩,
      spelled_singleton_iff.mpr ⟨after, rfl, blankAfter⟩⟩

mutual
theorem respaced_iff : ∀ (selector : Selector) (text : Text),
    Respaced selector text ↔ Spelled selector.toTokens text
  | .simple part, text => by
      rw [toTokens, spelled_singleton_iff]
      rfl
  | .negation argument, text => by
      rw [toTokens, spelled_negation_iff, Respaced]
      simp only [respaced_iff argument]
  | .combine combinator left right, text => by
      rw [toTokens, spelled_append_iff, Respaced]
      simp only [respaced_iff left, respaced_iff right, spelled_cons_iff]
      constructor
      · rintro ⟨first, sign, second, rfl, front, spells, back⟩
        exact ⟨first, sign ++ second, List.append_assoc .., front, sign, second, rfl, spells, back⟩
      · rintro ⟨first, _, rfl, front, sign, second, rfl, spells, back⟩
        exact ⟨first, sign, second, (List.append_assoc ..).symm, front, spells, back⟩
  | .group members, text => by
      rw [toTokens, Respaced, respacedApart_iff members]
  | .compound members, text => by
      rw [toTokens, Respaced, respacedAll_iff members]
  | .foreign _, _ => Iff.rfl

theorem respacedAll_iff : ∀ (members : List Selector) (text : Text),
    RespacedAll members text ↔ Spelled (toTokensAll members) text
  | [], _ => Iff.rfl
  | member :: rest, text => by
      rw [toTokensAll, spelled_append_iff, RespacedAll]
      simp only [respaced_iff member, respacedAll_iff rest]

theorem respacedApart_iff : ∀ (members : List Selector) (text : Text),
    RespacedApart members text ↔ Spelled (toTokensApart members) text
  | [], _ => Iff.rfl
  | member :: rest, text => by
      rw [toTokensApart, spelled_append_iff, RespacedApart]
      simp only [respaced_iff member, respacedAfter_iff rest]

theorem respacedAfter_iff : ∀ (members : List Selector) (text : Text),
    RespacedAfter members text ↔ Spelled (toTokensAfter members) text
  | [], _ => Iff.rfl
  | member :: rest, text => by
      rw [toTokensAfter, List.cons_append, spelled_cons_iff, RespacedAfter]
      simp only [respaced_iff member, respacedAfter_iff rest, spelled_append_iff]
      constructor
      · rintro ⟨comma, first, others, rfl, spells, front, back⟩
        exact ⟨comma, first ++ others, List.append_assoc .., spells, first, others, rfl, front, back⟩
      · rintro ⟨comma, _, rfl, spells, first, others, rfl, front, back⟩
        exact ⟨comma, first, others, (List.append_assoc ..).symm, spells, front, back⟩
end

/-! ## Reading respaced texts -/

/-- A selector that was read can be written, and is read again from what was written
with other blanks, unless what was written opens a comment. -/
theorem read_respaced {config : Config} {text : Text} {selector : Selector}
    (uncommented : Uncommented text) (read : Selector.read config text = .ok selector) :
    ∃ printed, selector.write = .ok printed ∧ Respaced selector printed ∧
      (Uncommented printed → ∀ before respaced after : Text, before.Blank → after.Blank →
        Respaced selector respaced →
          Selector.read config (before ++ respaced ++ after) = .ok selector) := by
  rcases formed_of_read uncommented read with ⟨formed, -, nested⟩
  have spelled := spelled_renderTokens formed.fits.sound
  rw [renderTokens_toTokens] at spelled
  refine ⟨selector.render, ?_, (respaced_iff selector _).mpr spelled, ?_⟩
  · rw [write, formed.foreign?_eq_none]
  · intro printable before respaced after blankBefore blankAfter spaced
    have spelling := (respaced_iff selector respaced).mp spaced
    have clear : Uncommented respaced :=
      (uncommented_iff_of_spelled formed.fits spelling).mpr
        ((uncommented_iff_of_spelled formed.fits spelled).mp printable)
    have sameSkeleton : skeleton respaced = skeleton selector.render := by
      rw [skeleton_of_spelled spelling, renderTokens_toTokens]
    exact read_of_spelled formed spelling blankBefore blankAfter
      (Uncommented.pad blankBefore clear blankAfter)
      (nested respaced clear sameSkeleton)

theorem read_respaced_nested_negation :
    Selector.read .standard (("\t" : Text) ++ ("ul> li:not(\nb ,*)" : Text) ++ (" " : Text)) =
      .ok (.combine .child (.simple (.type "ul")) (.compound
        [.simple (.type "li"), .negation (.group [.simple (.type "b"), .simple .any])])) := by
  rcases @read_respaced .standard "ul >li:NOT( b,* )" (.combine .child (.simple (.type "ul"))
      (.compound [.simple (.type "li"), .negation (.group [.simple (.type "b"), .simple .any])]))
      (by decide +kernel) (by decide +kernel) with ⟨printed, written, -, again⟩
  cases written
  have blankTab : Text.Blank "\t" := by simp [Text.Blank]; decide
  have blankLine : Text.Blank "\n" := by simp [Text.Blank]; decide
  refine again (by decide +kernel) "\t" "ul> li:not(\nb ,*)" " " blankTab Text.blank_space ?_
  exact ⟨"ul", "> ", "li:not(\nb ,*)", rfl, rfl, ⟨[], " ", rfl, Text.blank_nil, Text.blank_space⟩,
    "li", ":not(\nb ,*)", rfl, rfl, ":not(\nb ,*)", [], rfl,
    ⟨"\n", "b ,*", [], rfl, blankLine, ⟨"b", " ,*", rfl, rfl, " ,", "*", [], rfl,
      ⟨" ", [], rfl, Text.blank_space, Text.blank_nil⟩, rfl, rfl⟩, Text.blank_nil⟩, rfl⟩

end ScopedMarkup.Css.Selector
