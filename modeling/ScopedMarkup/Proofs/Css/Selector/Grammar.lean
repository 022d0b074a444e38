import ScopedMarkup.Proofs.Css.Selector.Form

/-! # Tokens and trees

`Fits` says which lists of tokens are selectors. The tokens of a formed tree fit
and are put together to that tree again; tokens that fit are put together to a
formed tree whose tokens they are.
-/

namespace ScopedMarkup.Css.Selector

/-! ## Tokens that fit together -/

/-- What stands before a place: nothing of the compound, a part whose name would
go on with another name, or another part. -/
inductive Position where
  | opening
  | afterName
  | afterPart
deriving DecidableEq, Repr

def Position.after (endsName : Bool) : Position := if endsName then afterName else afterPart

theorem Position.after_ne_opening (endsName : Bool) : after endsName ≠ opening := by
  cases endsName <;> decide

theorem Position.after_ne_afterName {endsName : Bool} (other : endsName = false) :
    after endsName ≠ afterName := by
  rw [other]
  decide

/-- The tokens go on from this position, inside so many open negations, and make
up the rest of a selector. -/
def Fits : (position : Position) → (openNegations : Nat) → List Token → Prop
  | position, openNegations, [] => position ≠ .opening ∧ openNegations = 0
  | position, openNegations, .simple part :: rest =>
      part.Written ∧ (part.isType = true → position ≠ .afterName) ∧
        Fits (.after part.endsName) openNegations rest
  | _, _, .malformed _ :: _ => False
  | position, openNegations, .combinator _ :: rest =>
      position ≠ .opening ∧ Fits .opening openNegations rest
  | position, openNegations, .comma :: rest =>
      position ≠ .opening ∧ Fits .opening openNegations rest
  | _, openNegations, .negationOpen :: rest => Fits .opening (openNegations + 1) rest
  | position, openNegations, .negationClose :: rest =>
      position ≠ .opening ∧ 0 < openNegations ∧ Fits .afterPart (openNegations - 1) rest

/-! ## The tokens of a formed selector fit -/

/-- The tokens of the selector fit wherever a selector of this rank may stand. -/
def Rank.Fitting : Rank → Selector → Prop
  | .member, selector => ∀ (position : Position) (openNegations : Nat) (rest : List Token),
      (selector.isType = true → position ≠ .afterName) →
      Fits (.after selector.endsName) openNegations rest →
      Fits position openNegations (selector.toTokens ++ rest)
  | _, selector => ∀ (openNegations : Nat) (rest : List Token),
      (∀ position ≠ Position.opening, Fits position openNegations rest) →
      Fits .opening openNegations (selector.toTokens ++ rest)

theorem fits_toTokensAll {members : List Selector} (nonempty : members ≠ [])
    (fitting : ∀ member ∈ members, Rank.Fitting .member member) (separated : Separated members)
    {openNegations : Nat} {rest : List Token}
    (further : ∀ position ≠ Position.opening, Fits position openNegations rest)
    {position : Position}
    (begins : ∀ first ∈ members.head?, first.isType = true → position ≠ .afterName) :
    Fits position openNegations (toTokensAll members ++ rest) := by
  induction members generalizing position with
  | nil => exact absurd rfl nonempty
  | cons first others induction =>
      rw [toTokensAll, List.append_assoc]
      apply fitting first List.mem_cons_self position openNegations _ (begins first rfl)
      cases others with
      | nil => exact further _ (Position.after_ne_opening _)
      | cons second others =>
          refine induction (List.cons_ne_nil _ _)
            (fun member inside => fitting member (List.mem_cons_of_mem _ inside)) separated.2 ?_
          intro next equal isType
          cases equal
          cases named : first.endsName with
          | false => exact Position.after_ne_afterName rfl
          | true =>
              have apart := separated.1 second rfl named
              rw [apart] at isType
              simp at isType

theorem fits_toTokensAfter {members : List Selector}
    (fitting : ∀ member ∈ members, Rank.Fitting .chain member)
    {openNegations : Nat} {rest : List Token}
    (further : ∀ position ≠ Position.opening, Fits position openNegations rest)
    {position : Position} (ended : position ≠ .opening) :
    Fits position openNegations (toTokensAfter members ++ rest) := by
  induction members generalizing position with
  | nil => exact further position ended
  | cons member others induction =>
      rw [toTokensAfter, List.cons_append, List.cons_append, List.append_assoc]
      refine ⟨ended, fitting member List.mem_cons_self openNegations _ ?_⟩
      intro next nextEnded
      exact induction (fun other inside => fitting other (List.mem_cons_of_mem _ inside)) nextEnded

theorem Formed.fitting {rank : Rank} {selector : Selector} (formed : Formed rank selector) :
    rank.Fitting selector := by
  induction formed with
  | simple written =>
      intro position openNegations rest begins further
      exact ⟨written, begins, further⟩
  | negation _ induction =>
      intro position openNegations rest _ further
      rw [toTokens, List.cons_append, List.cons_append, List.append_assoc]
      apply induction (openNegations + 1)
      intro ended isEnded
      exact ⟨isEnded, Nat.succ_pos _, further⟩
  | lone _ induction =>
      intro openNegations rest further
      apply induction
      · exact fun _ => by decide
      · exact further _ (Position.after_ne_opening _)
  | compound several _ separated induction =>
      intro openNegations rest further
      rw [toTokens]
      refine fits_toTokensAll ?_ induction separated further (fun _ _ _ => by decide)
      intro empty
      rw [empty] at several
      simp at several
  | head _ induction => exact induction
  | combine _ _ leftFits rightFits =>
      intro openNegations rest further
      rw [toTokens, List.append_assoc]
      apply leftFits
      intro position ended
      exact ⟨ended, rightFits openNegations rest further⟩
  | single _ induction => exact induction
  | @group members several _ induction =>
      intro openNegations rest further
      cases members with
      | nil => simp at several
      | cons member others =>
          rw [toTokens, toTokensApart, List.append_assoc]
          apply induction member List.mem_cons_self
          intro position ended
          exact fits_toTokensAfter
            (fun other inside => induction other (List.mem_cons_of_mem _ inside)) further ended

theorem Formed.fits {selector : Selector} (formed : Formed .whole selector) :
    Fits .opening 0 selector.toTokens := by
  have fitting := formed.fitting 0 [] (fun _ ended => ⟨ended, rfl⟩)
  rwa [List.append_nil] at fitting

/-! ## The tokens of a formed selector are put together to it -/

/-- Reading the tokens of the selector adds it where a selector of this rank
belongs in the draft. -/
def Rank.Building : Rank → Selector → Prop
  | .member, selector => ∀ (draft : Draft) (around : List Draft) (rest : List Token),
      ofTokensFrom draft around (selector.toTokens ++ rest) =
        ofTokensFrom (draft.add selector) around rest
  | .compound, selector => ∃ parts, Draft.compoundOf parts = selector ∧
      ∀ (members : List Selector) (chain : Option (Selector × Combinator)) (around : List Draft)
        (rest : List Token),
      ofTokensFrom ⟨members, chain, []⟩ around (selector.toTokens ++ rest) =
        ofTokensFrom ⟨members, chain, parts⟩ around rest
  | .chain, selector => ∀ members : List Selector, ∃ draft : Draft,
      draft.members = members ∧ draft.chained = selector ∧
      ∀ (around : List Draft) (rest : List Token),
      ofTokensFrom ⟨members, none, []⟩ around (selector.toTokens ++ rest) =
        ofTokensFrom draft around rest
  | .whole, selector => ∃ draft : Draft, draft.finish = selector ∧
      ∀ (around : List Draft) (rest : List Token),
      ofTokensFrom .empty around (selector.toTokens ++ rest) = ofTokensFrom draft around rest

theorem ofTokensFrom_toTokensAll {members : List Selector}
    (building : ∀ member ∈ members, Rank.Building .member member) (draft : Draft)
    (around : List Draft) (rest : List Token) :
    ofTokensFrom draft around (toTokensAll members ++ rest) =
      ofTokensFrom { draft with compound := draft.compound ++ members } around rest := by
  induction members generalizing draft with
  | nil => rw [toTokensAll, List.nil_append, List.append_nil]
  | cons first others induction =>
      rw [toTokensAll, List.append_assoc, building first List.mem_cons_self,
        induction fun member inside => building member (List.mem_cons_of_mem _ inside)]
      simp [Draft.add]

theorem exists_ofTokensFrom_toTokensAfter {members : List Selector}
    (building : ∀ member ∈ members, Rank.Building .chain member) (draft : Draft) :
    ∃ last : Draft,
      last.members ++ [last.chained] = draft.members ++ draft.chained :: members ∧
      ∀ (around : List Draft) (rest : List Token),
      ofTokensFrom draft around (toTokensAfter members ++ rest) =
        ofTokensFrom last around rest := by
  induction members generalizing draft with
  | nil => exact ⟨draft, rfl, fun _ _ => rfl⟩
  | cons member others induction =>
      rcases building member List.mem_cons_self (draft.members ++ [draft.chained]) with
        ⟨reached, sameMembers, chained, read⟩
      rcases induction (fun other inside => building other (List.mem_cons_of_mem _ inside))
        reached with ⟨last, equal, further⟩
      refine ⟨last, ?_, ?_⟩
      · rw [equal, sameMembers, chained]
        simp
      · intro around rest
        rw [toTokensAfter, List.cons_append, List.cons_append, List.append_assoc, ofTokensFrom]
        exact (read around _).trans (further around rest)

theorem Draft.compoundOf_of_several {members : List Selector} (several : 2 ≤ members.length) :
    compoundOf members = .compound members := by
  match members with
  | _ :: _ :: _ => rfl

theorem Draft.groupOf_of_several {members : List Selector} (several : 2 ≤ members.length) :
    groupOf members = .group members := by
  match members with
  | _ :: _ :: _ => rfl

theorem Formed.building {rank : Rank} {selector : Selector} (formed : Formed rank selector) :
    rank.Building selector := by
  induction formed with
  | simple _ => exact fun _ _ _ => rfl
  | negation _ induction =>
      intro draft around rest
      rcases induction with ⟨inner, finished, read⟩
      rw [toTokens, List.cons_append, List.cons_append, List.append_assoc, ofTokensFrom, read,
        List.singleton_append, ofTokensFrom, finished]
  | @lone member _ induction =>
      refine ⟨[member], rfl, ?_⟩
      intro members chain around rest
      exact induction ⟨members, chain, []⟩ around rest
  | @compound members several _ _ induction =>
      refine ⟨members, Draft.compoundOf_of_several several, ?_⟩
      intro others chain around rest
      exact ofTokensFrom_toTokensAll induction ⟨others, chain, []⟩ around rest
  | head _ induction =>
      intro members
      rcases induction with ⟨parts, built, read⟩
      exact ⟨⟨members, none, parts⟩, rfl, built, read members none⟩
  | @combine combinator _ _ _ _ leftBuilds rightBuilds =>
      intro members
      rcases leftBuilds members with ⟨draft, sameMembers, chained, readLeft⟩
      rcases rightBuilds with ⟨parts, built, readRight⟩
      refine ⟨⟨members, some (draft.chained, combinator), parts⟩, rfl, ?_, ?_⟩
      · simp only [Draft.chained] at chained ⊢
        rw [built, chained]
      · intro around rest
        rw [toTokens, List.append_assoc, readLeft, List.cons_append, ofTokensFrom, Draft.combine,
          sameMembers, readRight]
  | single _ induction =>
      rcases induction [] with ⟨draft, noMembers, chained, read⟩
      refine ⟨draft, ?_, read⟩
      rw [Draft.finish, noMembers, chained]
      rfl
  | @group members several _ induction =>
      cases members with
      | nil => simp at several
      | cons member others =>
          rcases induction member List.mem_cons_self [] with
            ⟨draft, noMembers, chained, readFirst⟩
          rcases exists_ofTokensFrom_toTokensAfter
            (fun other inside => induction other (List.mem_cons_of_mem _ inside)) draft with
            ⟨last, equal, readOthers⟩
          refine ⟨last, ?_, ?_⟩
          · rw [Draft.finish, equal, noMembers, chained]
            exact Draft.groupOf_of_several several
          · intro around rest
            rw [toTokens, toTokensApart, List.append_assoc]
            exact (readFirst around _).trans (readOthers around rest)

theorem Formed.ofTokens_toTokens {selector : Selector} (formed : Formed .whole selector) :
    ofTokens selector.toTokens = selector := by
  rcases formed.building with ⟨draft, finished, read⟩
  have equal := read [] []
  rw [List.append_nil] at equal
  rw [ofTokens, equal, ofTokensFrom, finished]

/-! ## Tokens that fit are put together to a formed selector -/

namespace Draft

/-- What has been read of a selector is formed. -/
structure Sound (draft : Draft) : Prop where
  members : ∀ member ∈ draft.members, Formed .chain member
  chain : ∀ left combinator, draft.chain = some (left, combinator) → Formed .chain left
  parts : ∀ part ∈ draft.compound, Formed .member part
  separated : Separated draft.compound

/-- The tokens that a draft was put together from. -/
def toTokens (draft : Draft) : List Token :=
  (draft.members.flatMap fun member => member.toTokens ++ [.comma]) ++
    (match draft.chain with
      | none => []
      | some (left, combinator) => left.toTokens ++ [.combinator combinator]) ++
    toTokensAll draft.compound

theorem sound_empty : Sound empty := by
  constructor <;> simp [empty, Separated]

end Draft

theorem toTokensAll_append (left right : List Selector) :
    toTokensAll (left ++ right) = toTokensAll left ++ toTokensAll right := by
  induction left with
  | nil => rfl
  | cons first left induction =>
      rw [List.cons_append, toTokensAll, toTokensAll, induction, List.append_assoc]

theorem toTokens_compoundOf (parts : List Selector) :
    (Draft.compoundOf parts).toTokens = toTokensAll parts := by
  match parts with
  | [] => rfl
  | [part] => rw [Draft.compoundOf, toTokensAll, toTokensAll, List.append_nil]
  | first :: second :: others => rfl

theorem formed_compoundOf {parts : List Selector} (nonempty : parts ≠ [])
    (forms : ∀ part ∈ parts, Formed .member part) (separated : Separated parts) :
    Formed .compound (Draft.compoundOf parts) := by
  match parts with
  | [] => exact absurd rfl nonempty
  | [part] => exact .lone (forms part List.mem_cons_self)
  | first :: second :: others => exact .compound (by simp) forms separated

theorem separated_append {parts : List Selector} {part : Selector} (separated : Separated parts)
    (apart : ∀ last ∈ parts.getLast?, last.endsName = true → part.isType = false) :
    Separated (parts ++ [part]) := by
  induction parts with
  | nil => exact ⟨by simp, trivial⟩
  | cons first others induction =>
      cases others with
      | nil =>
          refine ⟨?_, by simp, trivial⟩
          intro second equal
          cases equal
          exact apart first rfl
      | cons second others =>
          refine ⟨separated.1, induction separated.2 ?_⟩
          intro last equal
          exact apart last (by simpa using equal)

theorem toTokensApart_append (members : List Selector) (last : Selector) :
    toTokensApart (members ++ [last]) =
      (members.flatMap fun member => member.toTokens ++ [.comma]) ++ last.toTokens := by
  have after (others : List Selector) : toTokensAfter (others ++ [last]) =
      .comma :: ((others.flatMap fun member => member.toTokens ++ [.comma]) ++ last.toTokens) := by
    induction others with
    | nil => simp [toTokensAfter]
    | cons member others induction =>
        rw [List.cons_append, toTokensAfter, induction]
        simp
  cases members with
  | nil => simp [toTokensApart, toTokensAfter]
  | cons member others =>
      rw [List.cons_append, toTokensApart, after]
      simp

theorem toTokens_groupOf (members : List Selector) (last : Selector) :
    (Draft.groupOf (members ++ [last])).toTokens =
      (members.flatMap fun member => member.toTokens ++ [.comma]) ++ last.toTokens := by
  rw [← toTokensApart_append]
  match members with
  | [] => simp [Draft.groupOf, toTokensApart, toTokensAfter]
  | [member] => rfl
  | first :: second :: others => rfl

namespace Draft

variable {draft : Draft}

theorem toTokens_chained (draft : Draft) :
    draft.chained.toTokens =
      (match draft.chain with
        | none => []
        | some (left, combinator) => left.toTokens ++ [.combinator combinator]) ++
      toTokensAll draft.compound := by
  unfold chained
  cases draft.chain with
  | none => rw [toTokens_compoundOf, List.nil_append]
  | some chain => rw [Selector.toTokens, toTokens_compoundOf, List.append_cons]

theorem toTokens_finish (draft : Draft) : draft.finish.toTokens = draft.toTokens := by
  rw [finish, toTokens_groupOf, toTokens_chained, toTokens, List.append_assoc]

theorem toTokens_add (draft : Draft) (part : Selector) :
    (draft.add part).toTokens = draft.toTokens ++ part.toTokens := by
  simp [toTokens, add, toTokensAll_append, toTokensAll]

theorem toTokens_combine (draft : Draft) (combinator : Combinator) :
    (draft.combine combinator).toTokens = draft.toTokens ++ [.combinator combinator] := by
  simp [toTokens, combine, toTokens_chained, toTokensAll]

theorem toTokens_separate (draft : Draft) :
    draft.separate.toTokens = draft.toTokens ++ [.comma] := by
  simp [toTokens, separate, toTokens_chained, toTokensAll]

theorem Sound.formed_chained (sound : draft.Sound) (nonempty : draft.compound ≠ []) :
    Formed .chain draft.chained := by
  have compound := formed_compoundOf nonempty sound.parts sound.separated
  unfold chained
  cases chain : draft.chain with
  | none => exact .head compound
  | some chain' => exact .combine (sound.chain _ _ chain) compound

theorem Sound.formed_all (sound : draft.Sound) (nonempty : draft.compound ≠ []) :
    ∀ member ∈ draft.members ++ [draft.chained], Formed .chain member := by
  intro member inside
  rcases List.mem_append.mp inside with inside | last
  · exact sound.members member inside
  · rw [List.mem_singleton.mp last]
    exact sound.formed_chained nonempty

theorem Sound.formed_finish (sound : draft.Sound) (nonempty : draft.compound ≠ []) :
    Formed .whole draft.finish := by
  have formed := sound.formed_all nonempty
  unfold finish
  cases members : draft.members with
  | nil => exact .single (sound.formed_chained nonempty)
  | cons first others =>
      have several : 2 ≤ (first :: others ++ [draft.chained]).length := by simp
      rw [groupOf_of_several several]
      rw [members] at formed
      exact .group several formed

theorem Sound.combine (sound : draft.Sound) (nonempty : draft.compound ≠ [])
    (combinator : Combinator) : (draft.combine combinator).Sound where
  members := sound.members
  chain := by
    intro left joined equal
    cases equal
    exact sound.formed_chained nonempty
  parts := by simp [Draft.combine]
  separated := trivial

theorem Sound.separate (sound : draft.Sound) (nonempty : draft.compound ≠ []) :
    draft.separate.Sound where
  members := sound.formed_all nonempty
  chain := by simp [Draft.separate]
  parts := by simp [Draft.separate]
  separated := trivial

theorem Sound.add (sound : draft.Sound) {part : Selector} (formed : Formed .member part)
    (apart : ∀ last ∈ draft.compound.getLast?, last.endsName = true → part.isType = false) :
    (draft.add part).Sound where
  members := sound.members
  chain := sound.chain
  parts := by
    intro member inside
    rcases List.mem_append.mp inside with inside | last
    · exact sound.parts member inside
    · exact List.mem_singleton.mp last ▸ formed
  separated := separated_append sound.separated apart

/-- What the position says about the compound that is being read. -/
structure Stands (draft : Draft) (position : Position) : Prop where
  nonempty : position ≠ .opening → draft.compound ≠ []
  apart : position ≠ .afterName → ∀ last ∈ draft.compound.getLast?, last.endsName = false

/-- A simple part may follow where the position lets it. -/
theorem Sound.add_simple {position : Position} {part : Simple} (sound : draft.Sound)
    (stands : draft.Stands position) (written : part.Written)
    (apart : part.isType = true → position ≠ .afterName) : (draft.add (.simple part)).Sound := by
  refine sound.add (.simple written) fun last isLast named => ?_
  cases isType : part.isType with
  | false => exact isType
  | true =>
      have unnamed := stands.apart (apart isType) last isLast
      exact absurd (named.symm.trans unnamed) Bool.noConfusion

theorem stands_opening (members : List Selector) (chain : Option (Selector × Combinator)) :
    Stands ⟨members, chain, []⟩ .opening := by
  constructor <;> simp

theorem stands_add (draft : Draft) (part : Selector) :
    (draft.add part).Stands (.after part.endsName) := by
  constructor
  · intro _
    simp [add]
  · intro notAfterName last isLast
    have equal : part = last := by simpa [add] using isLast
    rw [← equal]
    cases named : part.endsName with
    | false => rfl
    | true => exact absurd (by rw [named]; rfl) notAfterName

end Draft

/-- The tokens that a draft and the drafts around it were put together from. -/
def stackTokens (draft : Draft) : List Draft → List Token
  | [] => draft.toTokens
  | outer :: around => stackTokens outer around ++ .negationOpen :: draft.toTokens

theorem stackTokens_append {draft next : Draft} {tokens : List Token}
    (equal : next.toTokens = draft.toTokens ++ tokens) (around : List Draft) :
    stackTokens next around = stackTokens draft around ++ tokens := by
  cases around with
  | nil => exact equal
  | cons outer around => rw [stackTokens, stackTokens, equal]; simp

/-- The tokens that are left make a formed selector of the drafts, and it has the tokens of
both. -/
def MakesFormed (draft : Draft) (around : List Draft) (tokens : List Token) : Prop :=
  Formed .whole (ofTokensFrom draft around tokens) ∧
    (ofTokensFrom draft around tokens).toTokens = stackTokens draft around ++ tokens

namespace MakesFormed

variable {draft next outer : Draft} {around : List Draft} {token : Token} {tokens : List Token}

/-- Each token but a parenthesis changes the innermost draft only. -/
theorem cons (further : MakesFormed next around tokens)
    (equal : next.toTokens = draft.toTokens ++ [token])
    (same : ofTokensFrom draft around (token :: tokens) = ofTokensFrom next around tokens) :
    MakesFormed draft around (token :: tokens) := by
  rcases further with ⟨formed, read⟩
  rw [MakesFormed, same, read, stackTokens_append equal, List.append_assoc]
  exact ⟨formed, rfl⟩

theorem negationOpen (further : MakesFormed .empty (draft :: around) tokens) :
    MakesFormed draft around (.negationOpen :: tokens) := by
  rcases further with ⟨formed, read⟩
  rw [MakesFormed, ofTokensFrom, read, stackTokens, List.append_assoc]
  exact ⟨formed, rfl⟩

theorem negationClose (further : MakesFormed (outer.add (.negation draft.finish)) around tokens) :
    MakesFormed draft (outer :: around) (.negationClose :: tokens) := by
  rcases further with ⟨formed, read⟩
  rw [MakesFormed, ofTokensFrom, read]
  refine ⟨formed, ?_⟩
  rw [stackTokens_append (Draft.toTokens_add outer _), stackTokens, toTokens,
    Draft.toTokens_finish]
  simp

end MakesFormed

theorem makesFormed_of_fits {tokens : List Token} {position : Position} {draft : Draft}
    {around : List Draft} (fits : Fits position around.length tokens) (sound : draft.Sound)
    (soundAround : ∀ outer ∈ around, outer.Sound) (stands : draft.Stands position) :
    MakesFormed draft around tokens := by
  induction tokens generalizing position draft around with
  | nil =>
      have noneAround : around = [] := List.eq_nil_of_length_eq_zero fits.2
      subst noneAround
      exact ⟨sound.formed_finish (stands.nonempty fits.1), by
        rw [ofTokensFrom, Draft.toTokens_finish, stackTokens, List.append_nil]⟩
  | cons token tokens induction =>
      cases token with
      | simple part =>
          rcases fits with ⟨written, apart, further⟩
          exact (induction further (sound.add_simple stands written apart) soundAround
            (Draft.stands_add draft (.simple part))).cons (Draft.toTokens_add draft _) rfl
      | malformed text => exact fits.elim
      | combinator sign =>
          exact (induction fits.2 (sound.combine (stands.nonempty fits.1) sign) soundAround
            (Draft.stands_opening _ _)).cons (Draft.toTokens_combine draft sign) rfl
      | comma =>
          exact (induction fits.2 (sound.separate (stands.nonempty fits.1)) soundAround
            (Draft.stands_opening _ _)).cons (Draft.toTokens_separate draft) rfl
      | negationOpen =>
          exact .negationOpen (@induction .opening .empty (draft :: around) fits Draft.sound_empty
            (List.forall_mem_cons.mpr ⟨sound, soundAround⟩) (Draft.stands_opening _ _))
      | negationClose =>
          rcases fits with ⟨ended, opened, further⟩
          cases around with
          | nil => simp at opened
          | cons outer around =>
              have formed := sound.formed_finish (stands.nonempty ended)
              rcases List.forall_mem_cons.mp soundAround with ⟨outerSound, furtherSound⟩
              exact .negationClose (@induction .afterPart _ around further
                (outerSound.add (.negation formed) (fun _ _ _ => rfl)) furtherSound
                (Draft.stands_add outer (.negation draft.finish)))

/-- Tokens that fit are the tokens of the formed selector that they make. -/
theorem formed_ofTokens {tokens : List Token} (fits : Fits .opening 0 tokens) :
    Formed .whole (ofTokens tokens) ∧ (ofTokens tokens).toTokens = tokens :=
  @makesFormed_of_fits tokens .opening .empty [] fits Draft.sound_empty (by simp)
    (Draft.stands_opening _ _)

end ScopedMarkup.Css.Selector
