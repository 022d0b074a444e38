import ScopedMarkup.Css.Selector.Scoping
import ScopedMarkup.Proofs.Css.Selector.RoundTrip

/-! # Marked selectors

A formed selector stays formed when it is marked, opens no comment that it did not
open, and keeps its skeleton. So the text of a scoped selector is read as the
marked selector.
-/

namespace ScopedMarkup.Css.Selector

variable {marker : Text}

/-! ## Markers -/

/-- Letters and digits of ASCII, the hyphen and the underscore. -/
def isMarkerCharacter (character : Char) : Bool :=
  character.isAlphanum || character = '-' || character = '_'

def IsMarkerName (name : Text) : Prop := name ≠ [] ∧ name.all isMarkerCharacter = true

instance (name : Text) : Decidable (IsMarkerName name) := inferInstanceAs (Decidable (_ ∧ _))

theorem IsMarkerName.continues (named : IsMarkerName marker) :
    ∀ character ∈ marker, continuesName character = true := by
  intro character member
  have belongs := List.all_eq_true.mp named.2 character member
  simp only [isMarkerCharacter, Bool.or_eq_true, decide_eq_true_eq, or_assoc] at belongs
  rcases belongs with alphanumeric | rfl | rfl
  · have covered := covers_of_isAlphanum alphanumeric
    have small : character.toNat < 128 := by
      simp only [asciiWordClass, CharacterClass.covers, List.any_cons, List.any_nil,
        Bool.or_false, Bool.or_eq_true, Bool.and_eq_true, decide_eq_true_eq] at covered
      omega
    simp [continuesName, isWordCharacter, small, alphanumeric]
  · decide
  · decide

theorem not_mem_of_continuesName {character : Char} {characters : Text}
    (continues : continuesName character = true)
    (others : (characters.all fun other => !continuesName other) = true) :
    character ∉ characters := by
  intro member
  have other := List.all_eq_true.mp others character member
  rw [continues] at other
  simp at other

theorem IsMarkerName.isAttributeName (named : IsMarkerName marker) : IsAttributeName marker := by
  refine ⟨named.1, fun character member => ?_⟩
  have continues := named.continues character member
  have absent : character ∉ ['~', '|', '^', '$', '*', '=', ']'] :=
    not_mem_of_continuesName continues (by decide)
  change (isBlank character || ['~', '|', '^', '$', '*', '=', ']'].contains character) = false
  rw [isBlank_eq_false_of_continuesName continues]
  simpa using absent

theorem IsMarkerName.whole (named : IsMarkerName marker) : bracketSpan.Whole marker := by
  refine Span.whole_of_ordinary fun character member => ?_
  have absent : character ∉ [']', '"', '\'', ')'] :=
    not_mem_of_continuesName (named.continues character member) (by decide)
  simp only [List.mem_cons, List.not_mem_nil, or_false, not_or] at absent
  refine ⟨by simp [Quote.of?, absent], by simp [bracketSpan, Span.between, absent],
    absent.2.2.2, ?_⟩
  simp [bracketSpan, Span.between]

theorem IsMarkerName.written (named : IsMarkerName marker) :
    Simple.Written (.attribute marker none none) :=
  .bareBrackets named.isAttributeName named.whole

theorem IsMarkerName.skeleton (named : IsMarkerName marker) :
    Css.skeleton (marked marker).render = [] := by
  change Css.skeleton (['['] ++ marker ++ [']']) = []
  rw [skeleton_append, skeleton_append, skeleton_name named.continues]
  rfl

theorem IsMarkerName.uncommented (named : IsMarkerName marker) :
    Uncommented (marked marker).render := by
  intro found
  have member : '/' ∈ '[' :: marker ++ [']'] := found.subset List.mem_cons_self
  have continues := named.continues '/'
  simp only [List.cons_append, List.mem_cons, List.mem_append, List.not_mem_nil] at member
  rcases member with same | member | same | empty
  · exact absurd same (by decide)
  · exact absurd (continues member) (by decide)
  · exact absurd same (by decide)
  · exact empty

/-! ## Marked selectors are formed -/

/-- A member of a compound with another argument, if it is a negation. -/
def withArgument (change : Selector → Selector) : Selector → Selector
  | .negation argument => .negation (change argument)
  | member => member

theorem markArguments_cons (member : Selector) (rest : List Selector) :
    markArguments marker (member :: rest) =
      withArgument (mark marker) member :: markArguments marker rest := by
  cases member <;> simp [markArguments, withArgument]

theorem markArguments_eq_map (members : List Selector) :
    markArguments marker members = members.map (withArgument (mark marker)) := by
  induction members with
  | nil => rfl
  | cons member rest induction => rw [markArguments_cons, induction, List.map_cons]

theorem markAll_eq_map (members : List Selector) :
    markAll marker members = members.map (mark marker) := by
  induction members with
  | nil => rfl
  | cons member rest induction => rw [markAll, induction, List.map_cons]

theorem mark_simple {part : Simple} (proper : part ≠ .any) :
    mark marker (.simple part) =
      if part.isPseudo then .compound [marked marker, .simple part]
      else .compound [.simple part, marked marker] := by
  cases part with
  | any => exact absurd rfl proper
  | _ => rfl

theorem endsName_withArgument (change : Selector → Selector) (member : Selector) :
    (withArgument change member).endsName = member.endsName := by
  cases member <;> rfl

theorem isType_withArgument (change : Selector → Selector) (member : Selector) :
    (withArgument change member).isType = member.isType := by
  cases member <;> rfl

theorem separated_map_withArgument {change : Selector → Selector} {members : List Selector}
    (separated : Separated members) : Separated (members.map (withArgument change)) := by
  induction members with
  | nil => trivial
  | cons first rest induction =>
      refine ⟨?_, induction separated.2⟩
      intro second isHead named
      rw [endsName_withArgument] at named
      cases rest with
      | nil => simp at isHead
      | cons next others =>
          cases isHead
          rw [isType_withArgument]
          exact separated.1 next rfl named

theorem separated_insertMarker {members : List Selector} (separated : Separated members) :
    Separated (insertMarker marker members) := by
  induction members with
  | nil => exact ⟨by simp, trivial⟩
  | cons first rest induction =>
      rw [insertMarker]
      split
      · exact ⟨fun _ _ named => absurd named (by simp [marked, endsName, Simple.endsName]),
          separated⟩
      · refine ⟨?_, induction separated.2⟩
        intro second isHead named
        cases rest with
        | nil =>
            cases isHead
            rfl
        | cons next others =>
            rw [insertMarker] at isHead
            split at isHead
            · cases isHead
              rfl
            · cases isHead
              exact separated.1 second rfl named

theorem mem_insertMarker {member : Selector} {members : List Selector} :
    member ∈ insertMarker marker members ↔ member = marked marker ∨ member ∈ members := by
  induction members with
  | nil => simp [insertMarker]
  | cons first rest induction =>
      rw [insertMarker]
      split
      · simp
      · rw [List.mem_cons, induction, List.mem_cons]
        exact or_left_comm

theorem length_insertMarker (members : List Selector) :
    (insertMarker marker members).length = members.length + 1 := by
  induction members with
  | nil => rfl
  | cons first rest induction =>
      rw [insertMarker]
      split <;> simp [induction]

/-- What marking makes of a selector of some rank. -/
def Rank.Marked (marker : Text) : Rank → Selector → Prop
  | .member, selector =>
      Formed .compound (mark marker selector) ∧ Formed .member (withArgument (mark marker) selector)
  | rank, selector => Formed rank (mark marker selector)

theorem Formed.marked_of_isMarkerName (named : IsMarkerName marker) {rank : Rank}
    {selector : Selector} (formed : Formed rank selector) : rank.Marked marker selector := by
  have alone : Formed .member (marked marker) := .simple named.written
  induction formed with
  | @simple part written =>
      refine ⟨?_, .simple written⟩
      by_cases proper : part = .any
      · subst proper
        exact .lone alone
      · rw [mark_simple proper]
        have both : ∀ member ∈ [Selector.simple part, marked marker], Formed .member member := by
          simp [alone, Formed.simple written]
        split
        · refine .compound (by simp) (fun member inside => both member ?_) ⟨?_, by simp, trivial⟩
          · simpa [or_comm] using inside
          · simp [marked, endsName, Simple.endsName]
        · exact .compound (by simp) both ⟨by simp [marked, isType, Simple.isType], by simp, trivial⟩
  | @negation argument _ induction =>
      have inner : Formed .member (.negation (mark marker argument)) := .negation induction
      refine ⟨.compound (by simp) ?_ ⟨?_, by simp, trivial⟩, inner⟩
      · simp [alone, inner]
      · simp [marked, endsName, Simple.endsName]
  | lone _ induction => exact induction.1
  | @compound members several _ separated induction =>
      change Formed .compound (.compound (insertMarker marker (markArguments marker members)))
      rw [markArguments_eq_map]
      refine .compound ?_ ?_ (separated_insertMarker (separated_map_withArgument separated))
      · rw [length_insertMarker, List.length_map]
        omega
      · intro member inside
        rcases mem_insertMarker.mp inside with rfl | inside
        · exact alone
        · rcases List.mem_map.mp inside with ⟨original, member, rfl⟩
          exact (induction original member).2
  | head _ induction => exact .head induction
  | combine _ _ leftMarked rightMarked => exact .combine leftMarked rightMarked
  | single _ induction => exact .single induction
  | @group members several _ induction =>
      change Formed .whole (.group (markAll marker members))
      rw [markAll_eq_map]
      refine .group (by simpa using several) fun member inside => ?_
      rcases List.mem_map.mp inside with ⟨original, member, rfl⟩
      exact induction original member

theorem Formed.mark (named : IsMarkerName marker) {selector : Selector}
    (formed : Formed .whole selector) : Formed .whole (selector.mark marker) :=
  formed.marked_of_isMarkerName named

/-! ## The tokens of a marked selector -/

/-- The tokens that marking adds or takes away. -/
def isFleeting (marker : Text) (token : Token) : Bool :=
  token = .simple .any || token = .simple (.attribute marker none none)

/-- The tokens that marking leaves as they are. -/
def lasting (marker : Text) (tokens : List Token) : List Token :=
  tokens.filter fun token => !isFleeting marker token

@[simp] theorem lasting_append (left right : List Token) :
    lasting marker (left ++ right) = lasting marker left ++ lasting marker right :=
  List.filter_append ..

theorem lasting_cons (token : Token) (rest : List Token) :
    lasting marker (token :: rest) = lasting marker [token] ++ lasting marker rest :=
  lasting_append [token] rest

theorem eq_of_isFleeting {token : Token} (fleeting : isFleeting marker token = true) :
    token = .simple .any ∨ token = .simple (.attribute marker none none) := by
  simpa [isFleeting] using fleeting

theorem lasting_marked : lasting marker (marked marker).toTokens = [] := by
  simp [lasting, isFleeting, marked, toTokens]

theorem lasting_insertMarker (members : List Selector) :
    lasting marker (toTokensAll (insertMarker marker members)) =
      lasting marker (toTokensAll members) := by
  induction members with
  | nil =>
      change lasting marker ((marked marker).toTokens ++ []) = []
      rw [List.append_nil, lasting_marked]
  | cons member rest induction =>
      rw [insertMarker]
      split
      · rw [toTokensAll, lasting_append, lasting_marked, List.nil_append]
      · rw [toTokensAll, toTokensAll, lasting_append, lasting_append, induction]

theorem lasting_pair (first second : Selector) :
    lasting marker (toTokens (.compound [first, second])) =
      lasting marker first.toTokens ++ lasting marker second.toTokens := by
  rw [toTokens, toTokensAll, toTokensAll, toTokensAll, List.append_nil, lasting_append]

mutual
theorem lasting_mark : ∀ selector : Selector,
    lasting marker (mark marker selector).toTokens = lasting marker selector.toTokens
  | .simple part => by
      by_cases proper : part = .any
      · subst proper
        simp [mark, marked, toTokens, lasting, isFleeting]
      · rw [mark_simple proper]
        split
        · rw [lasting_pair, lasting_marked, List.nil_append]
        · rw [lasting_pair, lasting_marked, List.append_nil]
  | .negation argument => by
      rw [mark, lasting_pair, lasting_marked, List.nil_append]
      exact lasting_negation argument
  | .combine combinator left right => by
      rw [mark, toTokens, toTokens, lasting_append, lasting_append, lasting_cons, lasting_mark left,
        lasting_mark right, ← lasting_cons]
  | .group members => by rw [mark, toTokens, toTokens, lasting_markAll members]
  | .compound members => by
      rw [mark, toTokens, toTokens, lasting_insertMarker, lasting_markArguments members]
  | .foreign _ => rfl

theorem lasting_negation : ∀ argument : Selector,
    lasting marker (toTokens (.negation (mark marker argument))) =
      lasting marker (toTokens (.negation argument))
  | argument => by
      rw [toTokens, toTokens, List.cons_append, List.cons_append, lasting_cons, lasting_append,
        lasting_mark argument, ← lasting_append, ← lasting_cons]

theorem lasting_markArguments : ∀ members : List Selector,
    lasting marker (toTokensAll (markArguments marker members)) =
      lasting marker (toTokensAll members)
  | [] => rfl
  | .negation argument :: rest => by
      rw [markArguments, toTokensAll, toTokensAll, lasting_append, lasting_append,
        lasting_negation argument, lasting_markArguments rest]
  | .simple _ :: rest | .combine _ _ _ :: rest | .group _ :: rest | .compound _ :: rest
  | .foreign _ :: rest => by
      rw [markArguments_cons, withArgument, toTokensAll, toTokensAll, lasting_append,
        lasting_append, lasting_markArguments rest]
      simp

theorem lasting_markAll : ∀ members : List Selector,
    lasting marker (toTokensApart (markAll marker members)) =
      lasting marker (toTokensApart members)
  | [] => rfl
  | member :: rest => by
      rw [markAll, toTokensApart, toTokensApart, lasting_append, lasting_append,
        lasting_mark member, lasting_markAfter rest]

theorem lasting_markAfter : ∀ members : List Selector,
    lasting marker (toTokensAfter (markAll marker members)) =
      lasting marker (toTokensAfter members)
  | [] => rfl
  | member :: rest => by
      rw [markAll, toTokensAfter, toTokensAfter, List.cons_append, List.cons_append, lasting_cons,
        lasting_append, lasting_mark member, lasting_markAfter rest, ← lasting_append,
        ← lasting_cons]
end

/-! ## The text of a marked selector -/

theorem skeleton_renderTokens_lasting (named : IsMarkerName marker) (tokens : List Token) :
    skeleton (renderTokens (lasting marker tokens)) = skeleton (renderTokens tokens) := by
  induction tokens with
  | nil => rfl
  | cons token rest induction =>
      rw [renderTokens_cons, skeleton_append, lasting, List.filter_cons]
      split
      · rw [renderTokens_cons, skeleton_append]
        exact congrArg _ induction
      · rename_i fleeting
        have empty : skeleton token.render = [] := by
          simp only [Bool.not_eq_true', Bool.not_eq_false] at fleeting
          rcases eq_of_isFleeting fleeting with rfl | rfl
          · rfl
          · exact named.skeleton
        rw [empty, List.nil_append]
        exact induction

theorem skeleton_render_mark (named : IsMarkerName marker) (selector : Selector) :
    skeleton (mark marker selector).render = skeleton selector.render := by
  rw [← renderTokens_toTokens, ← renderTokens_toTokens, ← skeleton_renderTokens_lasting named,
    lasting_mark, skeleton_renderTokens_lasting named]

theorem uncommented_renderTokens_iff {position : Position} {openNegations : Nat}
    {tokens : List Token} (fits : Fits position openNegations tokens) :
    Uncommented (renderTokens tokens) ↔ ∀ token ∈ tokens, Uncommented token.render :=
  uncommented_iff_of_spelled fits (spelled_renderTokens fits.sound)

theorem uncommented_render_mark (named : IsMarkerName marker) {selector : Selector}
    (formed : Formed .whole selector) (uncommented : Uncommented selector.render) :
    Uncommented (mark marker selector).render := by
  rw [← renderTokens_toTokens] at uncommented ⊢
  have each := (uncommented_renderTokens_iff formed.fits).mp uncommented
  refine (uncommented_renderTokens_iff (formed.mark named).fits).mpr fun token member => ?_
  cases fleeting : isFleeting marker token with
  | false =>
      have stays : token ∈ lasting marker (mark marker selector).toTokens :=
        List.mem_filter.mpr ⟨member, by simp [fleeting]⟩
      rw [lasting_mark] at stays
      exact each token (List.mem_filter.mp stays).1
  | true =>
      rcases eq_of_isFleeting fleeting with rfl | rfl
      · intro found
        exact absurd (found.subset (a := '/') List.mem_cons_self) (by decide)
      · exact named.uncommented

/-! ## Where the marker stands -/

/-- The tree that marking makes of a tree. Each compound gets one marker, before its
first pseudo or negation, or else at its end; what is no compound becomes one. -/
inductive MarkedAs (marker : Text) : Selector → Selector → Prop
  | any : MarkedAs marker (.simple .any) (marked marker)
  | plain {part : Simple} (proper : part ≠ .any) (plain : part.isPseudo = false) :
      MarkedAs marker (.simple part) (.compound [.simple part, marked marker])
  | pseudo {part : Simple} (pseudo : part.isPseudo = true) :
      MarkedAs marker (.simple part) (.compound [marked marker, .simple part])
  | negation {argument changed : Selector} (argumentMarked : MarkedAs marker argument changed) :
      MarkedAs marker (.negation argument) (.compound [marked marker, .negation changed])
  | combine {combinator : Combinator} {left left' right right' : Selector}
      (leftMarked : MarkedAs marker left left') (rightMarked : MarkedAs marker right right') :
      MarkedAs marker (.combine combinator left right) (.combine combinator left' right')
  | group {members : List Selector} (change : Selector → Selector)
      (each : ∀ member ∈ members, MarkedAs marker member (change member)) :
      MarkedAs marker (.group members) (.group (members.map change))
  | compound {front back : List Selector} (change : Selector → Selector)
      (plain : ∀ member ∈ front, member.isPseudo = false)
      (pseudo : ∀ member ∈ back.head?, member.isPseudo = true)
      (arguments : ∀ argument, .negation argument ∈ back →
        MarkedAs marker argument (change argument)) :
      MarkedAs marker (.compound (front ++ back))
        (.compound (front ++ marked marker :: back.map (withArgument change)))

theorem withArgument_of_plain {change : Selector → Selector} {member : Selector}
    (plain : member.isPseudo = false) : withArgument change member = member := by
  cases member with
  | negation argument => simp [isPseudo] at plain
  | _ => rfl

theorem isPseudo_withArgument (change : Selector → Selector) (member : Selector) :
    (withArgument change member).isPseudo = member.isPseudo := by
  cases member <;> rfl

/-- The marker goes behind the longest start of a compound without pseudos and
negations. -/
theorem exists_insertMarker (change : Selector → Selector) (members : List Selector) :
    ∃ front back, members = front ++ back ∧ (∀ member ∈ front, member.isPseudo = false) ∧
      (∀ member ∈ back.head?, member.isPseudo = true) ∧
      insertMarker marker (members.map (withArgument change)) =
        front ++ marked marker :: back.map (withArgument change) := by
  induction members with
  | nil => exact ⟨[], [], rfl, by simp, by simp, rfl⟩
  | cons member rest induction =>
      rw [List.map_cons, insertMarker, isPseudo_withArgument]
      cases pseudo : member.isPseudo with
      | true => exact ⟨[], member :: rest, rfl, by simp, by simp [pseudo], rfl⟩
      | false =>
          rcases induction with ⟨front, back, rfl, plain, stops, inserted⟩
          refine ⟨member :: front, back, rfl, ?_, stops, ?_⟩
          · intro other inside
            rcases List.mem_cons.mp inside with rfl | inside
            · exact pseudo
            · exact plain other inside
          · rw [if_neg (by simp), inserted, withArgument_of_plain pseudo, List.cons_append]

/-- Marking makes the marked tree of each selector that was read. -/
theorem Formed.markedAs_mark {rank : Rank} {selector : Selector} (formed : Formed rank selector) :
    MarkedAs marker selector (selector.mark marker) := by
  induction formed with
  | @simple part _ =>
      by_cases proper : part = .any
      · subst proper
        exact .any
      · rw [mark_simple proper]
        cases pseudo : part.isPseudo with
        | true => exact .pseudo pseudo
        | false => exact .plain proper pseudo
  | negation _ argument => exact .negation argument
  | lone _ member => exact member
  | @compound members _ _ _ each =>
      change MarkedAs marker _ (.compound (insertMarker marker (markArguments marker members)))
      rw [markArguments_eq_map]
      rcases @exists_insertMarker marker (Selector.mark marker) members with
        ⟨front, back, rfl, plain, stops, inserted⟩
      rw [inserted]
      refine .compound (Selector.mark marker) plain stops fun argument inside => ?_
      cases each (.negation argument) (List.mem_append_right front inside) with
      | negation argumentMarked => exact argumentMarked
  | head _ compound => exact compound
  | combine _ _ left right => exact .combine left right
  | single _ chain => exact chain
  | @group members _ _ each =>
      change MarkedAs marker _ (.group (markAll marker members))
      rw [markAll_eq_map]
      exact .group (Selector.mark marker) each

end ScopedMarkup.Css.Selector
