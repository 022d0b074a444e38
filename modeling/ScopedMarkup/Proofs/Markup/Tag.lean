import ScopedMarkup.Markup.Printer
import ScopedMarkup.Proofs.Markup.Form
import ScopedMarkup.Proofs.Outcome

/-! # Reading tags

What names, values and attributes are read from, what comes back when their own
text is read, and how a slash before the end of a tag changes that.
-/

namespace ScopedMarkup.Markup

variable {config : Config} {text name value rest : Text} {character : Char}

/-! ## Names -/

theorem readName_eq_ok_iff : readName text = .ok (name, rest) ↔
    text = name ++ rest ∧ name ≠ [] ∧ Token.GoesOn Token.endsName name rest ∧
      Token.Stops Token.endsName rest := by
  have captured := @Token.capture_eq_iff _ name rest text Token.aligned_endsName
  unfold readName
  split
  · rename_i equal
    constructor
    · intro read
      cases read
    · rintro ⟨split, nonempty, further⟩
      have found := equal.symm.trans (captured.mpr ⟨split, further⟩)
      exact absurd (Prod.mk.inj found).1.symm nonempty
  · rename_i first more following equal
    constructor
    · intro read
      cases read
      rcases captured.mp equal with ⟨split, further⟩
      exact ⟨split, List.cons_ne_nil _ _, further⟩
    · rintro ⟨split, _, further⟩
      cases equal.symm.trans (captured.mpr ⟨split, further⟩)
      rfl

theorem readName_append_cons (isName : IsName name)
    (ends : Token.isForeignToNames character = true)
    (closes : ¬ (name.getLast? = some '/' ∧ character = '>')) :
    readName (name ++ character :: rest) = .ok (name, character :: rest) := by
  have noBrace : character ≠ '{' ∧ character ≠ '}' := by
    constructor
    · rintro rfl
      exact absurd ends (by decide)
    · rintro rfl
      exact absurd ends (by decide)
  refine readName_eq_ok_iff.mpr ⟨rfl, isName.nonempty, ?_, ?_⟩
  · exact isName.goesOn (by simpa using closes) (by simpa using noBrace)
  · exact .inr (Token.endsName_of_isForeignToNames ends)

/-- The mark of a tag that closes itself ends a name. -/
theorem readName_append_selfClose (isName : IsName name) :
    readName (name ++ '/' :: '>' :: rest) = .ok (name, '/' :: '>' :: rest) := by
  refine readName_eq_ok_iff.mpr ⟨rfl, isName.nonempty, isName.goesOn (by simp) (by simp), ?_⟩
  exact .inr (@Token.endsName_of_kindAt _ .selfClose (by decide) rfl)

/-! ## Values -/

theorem readValue_eq_ok_iff_of_kindAt {kind : TokenKind} {quote : Char}
    (isQuote : kind = .singleQuote ∨ kind = .doubleQuote) (own : Token.sign kind = [quote])
    (begins : Token.kindAt text = kind) :
    readValue text = .ok (value, rest) ↔
      quote ∉ value ∧ text = quote :: (value ++ quote :: rest) := by
  have whole : kind ≠ .lessThan := by
    rintro rfl
    rcases isQuote with equal | equal <;> cases equal
  have marked : Token.sign kind ≠ [] := own ▸ List.cons_ne_nil _ _
  have aligned : Token.Aligned (Token.startsWith [kind]) := by
    rcases isQuote with rfl | rfl
    · exact Token.aligned_startsWith (by decide)
    · exact Token.aligned_startsWith (by decide)
  have opened : text = quote :: Token.rest text := by
    have split := Token.eq_sign_append_rest (begins ▸ marked)
    rwa [begins, own] at split
  unfold readValue
  simp only [Token.kind_first, begins, isQuote, if_true, map_eq_ok_iff,
    Token.expect_eq_ok_iff marked whole, own]
  constructor
  · rintro ⟨following, closed, equal⟩
    cases captured : Token.capture (Token.startsWith [kind]) (Token.rest text) with
    | mk front back =>
        rw [captured] at closed equal
        cases equal
        change back = quote :: rest at closed
        rcases (Token.capture_eq_iff aligned).mp captured with ⟨split, goesOn, -⟩
        refine ⟨(Token.goesOn_value_iff own whole).mp goesOn, ?_⟩
        rw [opened, split, closed]
  · rintro ⟨absent, split⟩
    have inside : Token.rest text = value ++ quote :: rest :=
      (List.cons.inj (opened.symm.trans split)).2
    have stops : Token.startsWith [kind] (quote :: rest) = true :=
      (Token.startsWith_single_iff marked whole).mpr (own ▸ List.prefix_append [quote] rest)
    have captured : Token.capture (Token.startsWith [kind]) (Token.rest text) =
        (value, quote :: rest) :=
      (Token.capture_eq_iff aligned).mpr
        ⟨inside, (Token.goesOn_value_iff own whole).mpr absent, .inr stops⟩
    rw [captured]
    exact ⟨rest, rfl, rfl⟩

theorem readValue_eq_ok_iff : readValue text = .ok (value, rest) ↔
    ∃ quote, (quote = '\'' ∨ quote = '"') ∧ quote ∉ value ∧
      text = quote :: (value ++ quote :: rest) := by
  constructor
  · intro read
    by_cases isQuote : Token.kindAt text = .singleQuote ∨ Token.kindAt text = .doubleQuote
    · rcases isQuote with begins | begins
      · have split := (readValue_eq_ok_iff_of_kindAt (.inl rfl) rfl begins).mp read
        exact ⟨'\'', .inl rfl, split⟩
      · have split := (readValue_eq_ok_iff_of_kindAt (.inr rfl) rfl begins).mp read
        exact ⟨'"', .inr rfl, split⟩
    · simp [readValue, Token.kind_first, isQuote] at read
  · rintro ⟨quote, rfl | rfl, split⟩
    · have begins : Token.kindAt text = .singleQuote := split.2 ▸ rfl
      exact (readValue_eq_ok_iff_of_kindAt (.inl rfl) rfl begins).mpr split
    · have begins : Token.kindAt text = .doubleQuote := split.2 ▸ rfl
      exact (readValue_eq_ok_iff_of_kindAt (.inr rfl) rfl begins).mpr split

/-! ## Attributes -/

theorem formed_of_readAttribute {entry : Attribute}
    (read : readAttribute text = .ok (entry, rest)) : entry.Formed := by
  unfold readAttribute at read
  split at read
  · cases read
  · rename_i name following named
    rcases readName_eq_ok_iff.mp named with ⟨-, nonempty, goesOn, -⟩
    have isName := isName_of_goesOn nonempty goesOn
    split at read
    · rcases map_eq_ok_iff.mp read with ⟨⟨value, remaining⟩, valued, equal⟩
      cases equal
      refine ⟨isName, fun found member => ?_⟩
      cases Option.mem_def.mp member
      rcases readValue_eq_ok_iff.mp valued with ⟨quote, rfl | rfl, absent, -⟩
      · exact .inr absent
      · exact .inl absent
    · cases read
      exact ⟨isName, by simp⟩

/-- An attribute with a value, between any quotes that are not in the value. -/
theorem readAttribute_valued {quote : Char} (isName : IsName name)
    (isQuote : quote = '\'' ∨ quote = '"') (absent : quote ∉ value) :
    readAttribute (name ++ '=' :: quote :: (value ++ quote :: rest)) =
      .ok (⟨name, some value⟩, rest) := by
  have named : readName (name ++ '=' :: quote :: (value ++ quote :: rest)) =
      .ok (name, '=' :: quote :: (value ++ quote :: rest)) :=
    readName_append_cons isName (by decide) (by simp)
  have valued : readValue (quote :: (value ++ quote :: rest)) = .ok (value, rest) :=
    readValue_eq_ok_iff.mpr ⟨quote, isQuote, absent, rfl⟩
  have equals : (Token.first ('=' :: quote :: (value ++ quote :: rest))).kind = .equals := rfl
  have follows : Token.rest ('=' :: quote :: (value ++ quote :: rest)) =
      quote :: (value ++ quote :: rest) := rfl
  simp only [readAttribute, named, equals, follows, valued, if_true]
  rfl

theorem readAttribute_valueless (named : readName text = .ok (name, rest))
    (noValue : rest.head? ≠ some '=') : readAttribute text = .ok (⟨name, none⟩, rest) := by
  have different : Token.kindAt rest ≠ .equals := by
    rw [ne_eq, Token.kindAt_eq_iff (by decide) (by decide)]
    exact mt Token.single_prefix_iff.mp noValue
  simp only [readAttribute, named, Token.kind_first, different, if_false]

/-- A text that ends the part of an open tag before it. -/
inductive EndsPart : Text → Prop where
  | sign {character : Char} {rest : Text} :
      Token.isForeignToNames character = true → character ≠ '=' → EndsPart (character :: rest)
  | selfClose {rest : Text} : EndsPart ('/' :: '>' :: rest)

theorem EndsPart.greaterThan (rest : Text) : EndsPart ('>' :: rest) :=
  .sign (by decide) (by decide)

theorem endsPart_of_blanks {blanks : Text} (nonempty : blanks ≠ []) (blank : blanks.Blank)
    (rest : Text) : EndsPart (blanks ++ rest) ∧ (blanks ++ rest).head? ≠ some '>' := by
  rcases List.exists_cons_of_ne_nil nonempty with ⟨first, more, rfl⟩
  have white : isBlank first = true := blank first List.mem_cons_self
  constructor
  · refine .sign (Bool.or_eq_true .. ▸ .inl white) ?_
    rintro rfl
    exact absurd white (by decide)
  · rintro ⟨⟩
    exact absurd white (by decide)

theorem EndsPart.blanks_append {blanks : Text} (blank : blanks.Blank) (ends : EndsPart rest) :
    EndsPart (blanks ++ rest) := by
  by_cases empty : blanks = []
  · rwa [empty]
  · exact (endsPart_of_blanks empty blank rest).1

theorem EndsPart.head?_ne (ends : EndsPart rest) : rest.head? ≠ some '=' := by
  cases ends with
  | sign _ different => simpa using different
  | selfClose => simp

theorem readName_of_endsPart (isName : IsName name) (ends : EndsPart rest)
    (plain : rest.head? = some '>' → name.getLast? ≠ some '/') :
    readName (name ++ rest) = .ok (name, rest) := by
  cases ends with
  | sign excluded _ =>
      apply readName_append_cons isName excluded
      rintro ⟨slash, rfl⟩
      exact plain rfl slash
  | selfClose => exact readName_append_selfClose isName

/-- An attribute can be written as this text, its value between quotes of either kind. -/
inductive Attribute.Writes : Attribute → Text → Prop where
  | bare {name : Text} : Writes ⟨name, none⟩ name
  | quoted {name value : Text} {quote : Char} : quote = '\'' ∨ quote = '"' → quote ∉ value →
      Writes ⟨name, some value⟩ (name ++ '=' :: quote :: (value ++ [quote]))

/-- An attribute without a value whose name ends in a slash. -/
def Attribute.Slashed (entry : Attribute) : Prop :=
  entry.value = none ∧ entry.name.getLast? = some '/'

instance (entry : Attribute) : Decidable entry.Slashed :=
  inferInstanceAs (Decidable (entry.value = none ∧ entry.name.getLast? = some '/'))

theorem readAttribute_of_writes {entry : Attribute} (isName : IsName entry.name)
    (writes : entry.Writes text) (ends : EndsPart rest)
    (plain : rest.head? = some '>' → ¬ entry.Slashed) :
    readAttribute (text ++ rest) = .ok (entry, rest) := by
  cases writes with
  | bare =>
      exact readAttribute_valueless
        (readName_of_endsPart isName ends fun closes slash => plain closes ⟨rfl, slash⟩)
        ends.head?_ne
  | @quoted name value quote isQuote absent =>
      have written : (name ++ '=' :: quote :: (value ++ [quote])) ++ rest =
          name ++ '=' :: quote :: (value ++ quote :: rest) := by simp
      rw [written]
      exact readAttribute_valued isName isQuote absent

theorem Attribute.Formed.writes_render {entry : Attribute} (formed : entry.Formed) :
    entry.Writes entry.render := by
  rcases entry with ⟨name, _ | value⟩
  · exact .bare
  · unfold Attribute.render
    simp only [List.cons_append, List.append_assoc]
    by_cases double : value.contains '"' = true
    · have absent : '\'' ∉ value := by
        rcases formed.quotable value rfl with noDouble | noSingle
        · exact absurd (List.contains_iff_mem.mp double) noDouble
        · exact noSingle
      simp only [double, if_true]
      exact .quoted (.inl rfl) absent
    · simp only [double]
      exact .quoted (.inr rfl) (mt List.contains_iff_mem.mpr double)

/-! ## Several attributes -/

variable {before attributes : List Attribute} {blanks : Text}

/-- What an attribute is read from neither begins with a blank nor ends the tag. -/
theorem endsName_eq_false_of_readAttribute {entry : Attribute}
    (read : readAttribute text = .ok (entry, rest)) : Token.endsName text = false := by
  unfold readAttribute at read
  split at read
  · cases read
  · rename_i name following named
    rcases readName_eq_ok_iff.mp named with ⟨rfl, nonempty, goesOn, -⟩
    exact goesOn [] name rfl nonempty

theorem kind_of_endsName_eq_false (continues : Token.endsName text = false) :
    (Token.first text).kind = .word ∨ (Token.first text).kind = .dot := by
  simp only [Token.endsName, Token.startsWith, Bool.not_eq_false', List.contains_eq_mem,
    decide_eq_true_iff, List.mem_cons, List.not_mem_nil, or_false] at continues
  exact continues

theorem trimStart_of_endsName_eq_false (blank : blanks.Blank)
    (continues : Token.endsName text = false) : Text.trimStart (blanks ++ text) = text := by
  rw [Text.trimStart_blank_append blank]
  apply Text.trimStart_eq_of_leaves
  intro first isHead
  rcases List.head?_eq_some_iff.mp (Option.mem_def.mp isHead) with ⟨more, rfl⟩
  apply Bool.eq_false_iff.mpr
  intro white
  rw [Token.endsName_of_isForeignToNames (Bool.or_eq_true .. ▸ .inl white)] at continues
  exact Bool.false_ne_true continues.symm

theorem readAttributes_step {entry : Attribute} (blank : blanks.Blank)
    (read : readAttribute text = .ok (entry, rest)) :
    readAttributes config before (blanks ++ text) =
      if config.strict && before.any (·.name = entry.name) then
        .error ⟨.duplicateAttribute entry.name, text⟩
      else readAttributes config (before ++ [entry]) rest := by
  have continues := endsName_eq_false_of_readAttribute read
  rw [readAttributes.eq_def]
  simp only [trimStart_of_endsName_eq_false blank continues]
  split
  · rename_i selfClose
    rcases kind_of_endsName_eq_false continues with equal | equal <;> simp [equal] at selfClose
  · rename_i greaterThan
    rcases kind_of_endsName_eq_false continues with equal | equal <;> simp [equal] at greaterThan
  · split
    · rename_i failed
      rw [trimStart_of_endsName_eq_false blank continues] at failed
      cases read.symm.trans failed
    · rename_i found following readAgain
      rw [trimStart_of_endsName_eq_false blank continues] at readAgain
      cases read.symm.trans readAgain
      rfl

theorem readAttributes_greaterThan (blank : blanks.Blank) :
    readAttributes config before (blanks ++ '>' :: rest) = .ok ⟨before, false, rest⟩ := by
  have trimmed : Text.trimStart (blanks ++ '>' :: rest) = '>' :: rest := by
    rw [Text.trimStart_blank_append blank]
    exact Text.trimStart_eq_of_leaves (Text.leaves_cons.mpr (by decide))
  have kind : (Token.first ('>' :: rest)).kind = .greaterThan := rfl
  rw [readAttributes.eq_def]
  simp only [trimmed, kind]
  rfl

theorem readAttributes_selfClose (blank : blanks.Blank) :
    readAttributes config before (blanks ++ '/' :: '>' :: rest) = .ok ⟨before, true, rest⟩ := by
  have trimmed : Text.trimStart (blanks ++ '/' :: '>' :: rest) = '/' :: '>' :: rest := by
    rw [Text.trimStart_blank_append blank]
    exact Text.trimStart_eq_of_leaves (Text.leaves_cons.mpr (by decide))
  have kind : (Token.first ('/' :: '>' :: rest)).kind = .selfClose := rfl
  rw [readAttributes.eq_def]
  simp only [trimmed, kind]
  rfl

theorem formed_of_readAttributes {found : TagEnd}
    (read : readAttributes config before text = .ok found)
    (formed : FormedAttributes config before) : FormedAttributes config found.attributes := by
  fun_induction readAttributes config before text with
  | case1 | case2 =>
      cases read
      exact formed
  | case3 | case4 => cases read
  | case5 before text trimmed entry rest readOne unique _ _ induction =>
      apply induction read
      exact formedAttributes_append_iff.mpr
        ⟨formed, formed_of_readAttribute readOne, Bool.eq_false_iff.mpr unique⟩

/-- Attributes can be written as this text, each behind blanks. -/
inductive WritesAttributes : List Attribute → Text → Prop where
  | nil : WritesAttributes [] []
  | cons {entry : Attribute} {others : List Attribute} {blanks written more : Text} :
      blanks ≠ [] → blanks.Blank → entry.Writes written → WritesAttributes others more →
        WritesAttributes (entry :: others) (blanks ++ (written ++ more))

theorem WritesAttributes.endsPart_append (writes : WritesAttributes attributes text)
    (ends : EndsPart rest) : EndsPart (text ++ rest) := by
  cases writes with
  | nil => exact ends
  | cons nonempty blank =>
      rw [List.append_assoc]
      exact (endsPart_of_blanks nonempty blank _).1

/-- Attributes are read from any text they can be written as, where a slash does not come
before the end of the tag. -/
theorem readAttributes_of_writes (writes : WritesAttributes attributes text)
    (formed : FormedAttributes config (before ++ attributes)) (ends : EndsPart rest)
    (plain : rest.head? = some '>' → ∀ last ∈ attributes.getLast?, ¬ last.Slashed) :
    readAttributes config before (text ++ rest) =
      readAttributes config (before ++ attributes) rest := by
  induction writes generalizing before with
  | nil => rw [List.append_nil, List.nil_append]
  | @cons entry others blanks written more nonempty blank writesEntry writesOthers induction =>
      rw [List.append_cons] at formed
      have first := formedAttributes_append_iff.mp formed.of_append
      have further : EndsPart (more ++ rest) ∧
          ((more ++ rest).head? = some '>' → ¬ entry.Slashed) := by
        cases writesOthers with
        | nil => exact ⟨ends, fun closes => plain closes entry rfl⟩
        | cons nonempty blank =>
            rw [List.append_assoc]
            exact ⟨(endsPart_of_blanks nonempty blank _).1,
              fun closes => absurd closes (endsPart_of_blanks nonempty blank _).2⟩
      have furtherPlain : rest.head? = some '>' → ∀ last ∈ others.getLast?, ¬ last.Slashed := by
        intro closes last isLast
        apply plain closes last
        rw [List.getLast?_cons, Option.mem_def.mp isLast]
        rfl
      have read : readAttribute (written ++ (more ++ rest)) = .ok (entry, more ++ rest) :=
        readAttribute_of_writes first.2.1.isName writesEntry further.1 further.2
      rw [List.append_assoc, List.append_assoc, readAttributes_step blank read, first.2.2,
        List.append_cons before entry others]
      exact induction formed furtherPlain

theorem writesAttributes_renderAll (each : ∀ entry ∈ attributes, entry.Formed) :
    WritesAttributes attributes (Attribute.renderAll attributes) := by
  induction attributes with
  | nil => exact .nil
  | cons entry others induction =>
      rcases List.forall_mem_cons.mp each with ⟨formed, further⟩
      have written : Attribute.renderAll (entry :: others) =
          [' '] ++ (entry.render ++ Attribute.renderAll others) := by
        simp [Attribute.renderAll]
      rw [written]
      exact .cons (List.cons_ne_nil _ _) Text.blank_space formed.writes_render (induction further)

/-! ## Slashes at the end -/

/-- Such an attribute closes the tag that it ends, and is not read as itself. -/
theorem readAttributes_slashed {entry : Attribute} {found : TagEnd} (formed : entry.Formed)
    (slashed : entry.Slashed) (blank : blanks.Blank)
    (read : readAttributes config before (blanks ++ entry.render ++ '>' :: rest) = .ok found) :
    found.closesItself = true ∧ found.attributes ≠ before ++ [entry] := by
  rcases entry with ⟨name, value⟩
  rcases slashed with ⟨rfl, last⟩
  rcases List.getLast?_eq_some_iff.mp last with ⟨stem, rfl⟩
  have written : blanks ++ Attribute.render ⟨stem ++ ['/'], none⟩ ++ '>' :: rest =
      blanks ++ (stem ++ '/' :: '>' :: rest) := by
    simp [Attribute.render]
  rw [written] at read
  cases stem with
  | nil =>
      rw [List.nil_append, readAttributes_selfClose blank] at read
      cases read
      exact ⟨rfl, by simp⟩
  | cons first stem =>
      have named := @readName_append_selfClose (first :: stem) rest
        (formed.isName.of_append (List.cons_ne_nil _ _))
      rw [readAttributes_step blank (readAttribute_valueless named (by simp))] at read
      split at read
      · cases read
      · have closed := @readAttributes_selfClose config rest (before ++ [⟨first :: stem, none⟩]) []
          Text.blank_nil
        cases closed.symm.trans read
        refine ⟨rfl, fun equal => ?_⟩
        have same := List.singleton_inj.mp (List.append_cancel_left equal)
        have lengths := congrArg (List.length ∘ Attribute.name) same
        simp at lengths

/-! ## Closing tags -/

/-- A slash at the end of its name makes a closing tag unreadable. -/
theorem readClosing_ne_ok {tag opened following : Text} (isTag : IsTag tag)
    (slashed : tag.getLast? = some '/') :
    readClosing config opened (tag ++ '>' :: rest) ≠ .ok following := by
  rcases List.getLast?_eq_some_iff.mp slashed with ⟨stem, rfl⟩
  have nonempty : stem ≠ [] := by
    rintro rfl
    exact isTag.opens rfl
  have named : readName (stem ++ '/' :: '>' :: rest) = .ok (stem, '/' :: '>' :: rest) :=
    readName_append_selfClose (isTag.isName.of_append nonempty)
  have trimmed : Text.trimStart ('/' :: '>' :: rest) = '/' :: '>' :: rest :=
    Text.trimStart_eq_of_leaves (Text.leaves_cons.mpr (by decide))
  have closed : Token.expect .greaterThan ('/' :: '>' :: rest) =
      .error (.unexpected ('/' :: '>' :: rest)) := rfl
  simp [readClosing, named, trimmed, closed]

end ScopedMarkup.Markup
