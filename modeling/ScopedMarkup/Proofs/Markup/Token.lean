import ScopedMarkup.Markup.Token
import ScopedMarkup.Proofs.Text.Blank

/-! # Where tokens begin and end

The kind of the token at the start of a text depends on its first two characters
only. No token hides the beginning of one that would end a capture, so a capture
goes through the characters just as well as through the tokens.
-/

namespace ScopedMarkup.Markup.Token

/-! ## The kind of the first token -/

/-- The kind of the token at the start of a text, by its first two characters. -/
def kindAt : Text → TokenKind
  | [] => .finish
  | first :: rest =>
      if first = '<' then if rest.head? = some '/' then .closeTag else .lessThan
      else if first = '>' then .greaterThan
      else if first = '\'' then .singleQuote
      else if first = '"' then .doubleQuote
      else if first = '=' then .equals
      else if first = '.' then .dot
      else if first = '/' ∧ rest.head? = some '>' then .selfClose
      else if first = '{' ∧ rest.head? = some '{' then .slotOpen
      else if first = '}' ∧ rest.head? = some '}' then .slotClose
      else if isBlank first then .blank
      else .word

/-- Where no punctuation stands, no sign does and no pair of signs. -/
theorem of_punctuation?_eq_none {character : Char} {rest : Text}
    (none : punctuation? (character :: rest) = none) :
    character ∉ ['<', '>', '\'', '"', '=', '.'] ∧
      ¬ (character = '/' ∧ rest.head? = some '>') ∧
      ¬ (character = '{' ∧ rest.head? = some '{') ∧
      ¬ (character = '}' ∧ rest.head? = some '}') := by
  unfold punctuation? at none
  split at none
  all_goals try cases none
  rename_i self opening closing less greater single double equals dot
  refine ⟨?_, ?_, ?_, ?_⟩
  · simp only [List.mem_cons, List.not_mem_nil, or_false, not_or]
    exact ⟨fun equal => less rest (by rw [equal]), fun equal => greater rest (by rw [equal]),
      fun equal => single rest (by rw [equal]), fun equal => double rest (by rw [equal]),
      fun equal => equals rest (by rw [equal]), fun equal => dot rest (by rw [equal])⟩
  · rintro ⟨rfl, isHead⟩
    rcases List.head?_eq_some_iff.mp isHead with ⟨others, rfl⟩
    exact self others rfl
  · rintro ⟨rfl, isHead⟩
    rcases List.head?_eq_some_iff.mp isHead with ⟨others, rfl⟩
    exact opening others rfl
  · rintro ⟨rfl, isHead⟩
    rcases List.head?_eq_some_iff.mp isHead with ⟨others, rfl⟩
    exact closing others rfl

theorem kind_first (text : Text) : (first text).kind = kindAt text := by
  unfold first scan
  split
  · rename_i found equal
    unfold punctuation? at equal
    split at equal <;> cases equal <;> simp_all [kindAt, List.head?_eq_some_iff]
  · rename_i none
    cases text with
    | nil => rfl
    | cons character rest =>
        rcases of_punctuation?_eq_none none with ⟨noSign, noSelfClose, noOpening, noClosing⟩
        simp only [List.mem_cons, List.not_mem_nil, or_false, not_or] at noSign
        simp only [kindAt, noSign, noSelfClose, noOpening, noClosing, if_false]
        split <;> rfl

/-- The characters that stand for a kind of punctuation. -/
def sign : TokenKind → Text
  | .lessThan => ['<']
  | .greaterThan => ['>']
  | .selfClose => ['/', '>']
  | .closeTag => ['<', '/']
  | .slotOpen => ['{', '{']
  | .slotClose => ['}', '}']
  | .singleQuote => ['\'']
  | .doubleQuote => ['"']
  | .equals => ['=']
  | .dot => ['.']
  | .word | .blank | .finish => []

theorem pair_prefix_iff {first second character : Char} {rest : Text} :
    [first, second] <+: character :: rest ↔ character = first ∧ rest.head? = some second := by
  rw [List.cons_prefix_cons, eq_comm]
  cases rest with
  | nil => simp
  | cons next rest => simp [List.cons_prefix_cons, eq_comm]

theorem single_prefix_iff {sign : Char} {text : Text} :
    [sign] <+: text ↔ text.head? = some sign := by
  cases text with
  | nil => simp
  | cons character rest => simp [List.cons_prefix_cons, eq_comm]

theorem sign_kindAt_prefix (text : Text) : sign (kindAt text) <+: text := by
  cases text with
  | nil => simp [kindAt, sign]
  | cons character rest =>
      let begins (kind : TokenKind) : Prop := sign kind <+: character :: rest
      change begins (kindAt (character :: rest))
      rw [kindAt]
      repeat' apply iteInduction (motive := begins) <;> intro
      all_goals simp only [begins, sign, pair_prefix_iff, single_prefix_iff, List.head?_cons,
        List.nil_prefix, *, and_self]

/-- Punctuation is the first token wherever it stands, but for the sign that also
begins a longer one. -/
theorem kindAt_eq_iff {kind : TokenKind} {text : Text} (marked : sign kind ≠ [])
    (whole : kind ≠ .lessThan) : kindAt text = kind ↔ sign kind <+: text := by
  constructor
  · rintro rfl
    exact sign_kindAt_prefix text
  · rintro ⟨rest, rfl⟩
    cases kind
    case lessThan => exact absurd rfl whole
    case word | blank | finish => exact absurd rfl marked
    all_goals rfl

theorem kindAt_lessThan_or_closeTag_iff {text : Text} :
    kindAt text = .lessThan ∨ kindAt text = .closeTag ↔ text.head? = some '<' := by
  rw [← single_prefix_iff]
  constructor
  · intro either
    have begins := sign_kindAt_prefix text
    rcases either with equal | equal
    · rwa [equal] at begins
    · rw [equal] at begins
      exact List.IsPrefix.trans ⟨['/'], rfl⟩ begins
  · rintro ⟨rest, rfl⟩
    rw [List.singleton_append, kindAt, if_pos rfl]
    split
    · exact .inr rfl
    · exact .inl rfl

theorem kind_eq_word_iff {text : Text} : (first text).kind = .word ↔ endsWord text = false := by
  unfold first scan
  cases text with
  | nil => simp [punctuation?, endsWord, finish]
  | cons character rest =>
      rw [endsWord]
      cases found : punctuation? (character :: rest) with
      | none => cases blank : isBlank character <;> simp [blank]
      | some token =>
          unfold punctuation? at found
          split at found <;> cases found <;> simp

/-! ## Captures as scans of the characters -/

/-- The text before the first place where the rest is to stop, and that rest. -/
def before (stops : Text → Bool) : Text → Text × Text
  | [] => ([], [])
  | character :: rest =>
      if stops (character :: rest) then ([], character :: rest)
      else (character :: (before stops rest).1, (before stops rest).2)

theorem wordRun_eq_before (text : Text) : wordRun text = before endsWord text := by
  induction text with
  | nil => rfl
  | cons character rest induction => rw [wordRun, before, induction]

section Captures

variable {stops : Text → Bool} {text rest : Text}

/-- The text goes on at each place of this part of it. -/
def GoesOn (stops : Text → Bool) (part rest : Text) : Prop :=
  ∀ front back, part = front ++ back → back ≠ [] → stops (back ++ rest) = false

theorem goesOn_nil (stops : Text → Bool) (rest : Text) : GoesOn stops [] rest := by
  intro front back split nonempty
  exact absurd (List.append_eq_nil_iff.mp split.symm).2 nonempty

theorem goesOn_cons {character : Char} {part : Text} :
    GoesOn stops (character :: part) rest ↔
      stops (character :: (part ++ rest)) = false ∧ GoesOn stops part rest := by
  constructor
  · intro goesOn
    refine ⟨goesOn [] (character :: part) rfl (List.cons_ne_nil _ _), ?_⟩
    intro front back split nonempty
    exact goesOn (character :: front) back (by rw [split, List.cons_append]) nonempty
  · rintro ⟨here, further⟩ front back split nonempty
    cases front with
    | nil =>
        rw [List.nil_append] at split
        rw [← split, List.cons_append]
        exact here
    | cons _ front => exact further front back (List.cons.inj split).2 nonempty

theorem before_append {part : Text} (goesOn : GoesOn stops part rest) :
    before stops (part ++ rest) = (part ++ (before stops rest).1, (before stops rest).2) := by
  induction part with
  | nil => rfl
  | cons character part induction =>
      rcases goesOn_cons.mp goesOn with ⟨here, further⟩
      rw [List.cons_append, before, here, induction further]
      rfl

/-- A capture stops here. -/
def Stops (stops : Text → Bool) (rest : Text) : Prop := rest = [] ∨ stops rest = true

theorem before_eq_of_stops (stopped : Stops stops rest) : before stops rest = ([], rest) := by
  cases rest with
  | nil => rfl
  | cons character rest =>
      rcases stopped with empty | stopped
      · exact absurd empty (List.cons_ne_nil _ _)
      · rw [before, if_pos stopped]

/-- What is captured goes on up to the place where the capture stops. -/
theorem before_eq_iff {part : Text} :
    before stops text = (part, rest) ↔
      text = part ++ rest ∧ GoesOn stops part rest ∧ Stops stops rest := by
  constructor
  · intro found
    induction text generalizing part with
    | nil =>
        cases found
        exact ⟨rfl, goesOn_nil stops [], .inl rfl⟩
    | cons character text induction =>
        rw [before] at found
        split at found
        · rename_i stopped
          cases found
          exact ⟨rfl, goesOn_nil stops _, .inr stopped⟩
        · rename_i here
          cases found
          rcases induction rfl with ⟨split, goesOn, stopped⟩
          refine ⟨by rw [List.cons_append, ← split], goesOn_cons.mpr ⟨?_, goesOn⟩, stopped⟩
          rw [← split]
          exact Bool.eq_false_iff.mpr here
  · rintro ⟨rfl, goesOn, stopped⟩
    rw [before_append goesOn, before_eq_of_stops stopped, List.append_nil]

/-- A token with which a capture goes on has no place inside it where the capture
would stop. -/
def Aligned (stops : Text → Bool) : Prop :=
  ∀ text, text ≠ [] → stops text = false → GoesOn stops (first text).value (Token.rest text)

theorem capture_eq_before (aligned : Aligned stops) (text : Text) :
    capture stops text = before stops text := by
  fun_induction capture stops text with
  | case1 => simp [before, *]
  | case2 text nonempty stopped => exact (before_eq_of_stops (.inr stopped)).symm
  | case3 text nonempty goesOn more remaining equal induction =>
      have split := before_append (aligned text nonempty (Bool.eq_false_iff.mpr goesOn))
      rw [value_append_rest, ← induction, equal] at split
      exact split.symm

end Captures

/-! ## What no token hides -/

section Inside

variable {stops : Text → Bool} {text rest part : Text}

theorem GoesOn.mono {other : Text → Bool} (goesOn : GoesOn stops part rest)
    (weaker : ∀ rest, stops rest = false → other rest = false) : GoesOn other part rest :=
  fun front back split nonempty => weaker _ (goesOn front back split nonempty)

theorem kindAt_of_isBlank {character : Char} (blank : isBlank character = true) (rest : Text) :
    kindAt (character :: rest) = .blank := by
  have different {sign : Char} (nonblank : isBlank sign = false) : character ≠ sign := by
    rintro rfl
    rw [blank] at nonblank
    simp at nonblank
  have signs : character ≠ '<' ∧ character ≠ '>' ∧ character ≠ '\'' ∧ character ≠ '"' ∧
      character ≠ '=' ∧ character ≠ '.' ∧ character ≠ '/' ∧ character ≠ '{' ∧ character ≠ '}' := by
    repeat' apply And.intro
    all_goals exact different (by decide)
  simp [kindAt, signs, blank]

theorem goesOn_blanks {blanks : Text} (blank : blanks.Blank) (rest : Text) :
    GoesOn (fun rest => kindAt rest ≠ .blank) blanks rest := by
  induction blanks with
  | nil => exact goesOn_nil _ rest
  | cons character blanks induction =>
      refine goesOn_cons.mpr ⟨?_, induction fun other member =>
        blank other (List.mem_cons_of_mem _ member)⟩
      simp [kindAt_of_isBlank (blank character List.mem_cons_self)]

/-- A word goes on up to where words end. -/
theorem goesOn_word (word : (first text).kind = .word) :
    GoesOn endsWord (first text).value (Token.rest text) := by
  have here := kind_eq_word_iff.mp word
  unfold first Token.rest scan
  cases text with
  | nil => simp [endsWord] at here
  | cons character text =>
      cases found : punctuation? (character :: text) with
      | some token => simp [endsWord, found] at here
      | none =>
          cases blank : isBlank character with
          | true => simp [endsWord, blank] at here
          | false =>
              simp only [blank, Bool.false_eq_true, if_false]
              rcases before_eq_iff.mp (wordRun_eq_before text).symm with ⟨split, goesOn, -⟩
              refine goesOn_cons.mpr ⟨?_, goesOn⟩
              rwa [← split]

theorem exists_of_punctuation? {token : Token}
    (found : punctuation? text = some (token, rest)) :
    (∃ sign, token.value = [sign]) ∨ ∃ first second, token.value = [first, second] ∧
      (second = '/' ∨ second = '>' ∨ (second = '{' ∧ token.kind = .slotOpen) ∨
        (second = '}' ∧ token.kind = .slotClose)) := by
  unfold punctuation? at found
  split at found <;> cases found
  case h_1 | h_2 | h_3 | h_4 => exact .inr ⟨_, _, rfl, by simp⟩
  all_goals exact .inl ⟨_, rfl⟩

theorem kindAt_slash (rest : Text) :
    kindAt ('/' :: rest) = if rest.head? = some '>' then .selfClose else .word := by
  have nonblank : isBlank '/' = false := by decide
  simp [kindAt, nonblank]

theorem kindAt_opening (rest : Text) :
    kindAt ('{' :: rest) = if rest.head? = some '{' then .slotOpen else .word := by
  have nonblank : isBlank '{' = false := by decide
  simp [kindAt, nonblank]

theorem kindAt_closing (rest : Text) :
    kindAt ('}' :: rest) = if rest.head? = some '}' then .slotClose else .word := by
  have nonblank : isBlank '}' = false := by decide
  simp [kindAt, nonblank]

/-- The kinds of tokens that could begin inside a token of this kind. -/
def innerKinds (kind : TokenKind) : List TokenKind := [kind, .word, .selfClose, .greaterThan]

theorem mem_innerKinds_second {second : Char} {kind : TokenKind} (rest : Text)
    (inside : second = '/' ∨ second = '>' ∨ (second = '{' ∧ kind = .slotOpen) ∨
      (second = '}' ∧ kind = .slotClose)) : kindAt (second :: rest) ∈ innerKinds kind := by
  rcases inside with rfl | rfl | ⟨rfl, rfl⟩ | ⟨rfl, rfl⟩
  · rw [kindAt_slash]
    split <;> simp [innerKinds]
  · simp [kindAt, innerKinds]
  · rw [kindAt_opening]
    split <;> simp [innerKinds]
  · rw [kindAt_closing]
    split <;> simp [innerKinds]

theorem goesOn_first (nonempty : text ≠ []) :
    GoesOn (fun rest => kindAt rest ∉ innerKinds (first text).kind) (first text).value
      (Token.rest text) := by
  cases found : punctuation? text with
  | some token =>
      have scanned : scan text = token := by rw [scan.eq_def, found]
      have starts : first text = token.1 := congrArg Prod.fst scanned
      have follows : Token.rest text = token.2 := congrArg Prod.snd scanned
      have begins : kindAt (token.1.value ++ token.2) ∈ innerKinds token.1.kind := by
        rw [← starts, ← follows, value_append_rest, kind_first]
        exact List.mem_cons_self
      rw [starts, follows]
      rcases exists_of_punctuation? found with ⟨sign, single⟩ | ⟨first, second, pair, inside⟩
      · rw [single] at begins ⊢
        exact goesOn_cons.mpr ⟨decide_eq_false (not_not_intro begins), goesOn_nil _ _⟩
      · rw [pair] at begins ⊢
        have further := mem_innerKinds_second token.2 inside
        exact goesOn_cons.mpr ⟨decide_eq_false (not_not_intro begins),
          goesOn_cons.mpr ⟨decide_eq_false (not_not_intro further), goesOn_nil _ _⟩⟩
  | none =>
      cases text with
      | nil => exact absurd rfl nonempty
      | cons character text =>
          cases blank : isBlank character with
          | false =>
              have word : (first (character :: text)).kind = .word := by
                simp [first, scan, found, blank]
              refine (goesOn_word word).mono fun rest ends => ?_
              have inside := kind_eq_word_iff.mpr ends
              rw [kind_first] at inside
              exact decide_eq_false (not_not_intro (by simp [inside, innerKinds]))
          | true =>
              have starts : first (character :: text) =
                  ⟨.blank, (character :: text).takeWhile isBlank⟩ := by
                simp [first, scan, found, blank]
              rw [starts]
              refine (goesOn_blanks (List.all_eq_true.mp List.all_takeWhile) _).mono ?_
              intro rest stays
              have own : kindAt rest = .blank := by simpa using stays
              exact decide_eq_false (not_not_intro (by simp [own, innerKinds]))

/-- What stops at none of these kinds stops only where tokens begin. -/
theorem aligned_startsWith {kinds : List TokenKind}
    (plain : .word ∉ kinds ∧ .selfClose ∉ kinds ∧ .greaterThan ∉ kinds) :
    Aligned (startsWith kinds) := by
  intro text nonempty goesOn
  refine (goesOn_first nonempty).mono fun rest allowed => ?_
  rw [startsWith, List.contains_eq_mem, decide_eq_false_iff_not] at goesOn ⊢
  have inside : kindAt rest ∈ innerKinds (first text).kind := by simpa using allowed
  rw [kind_first]
  simp only [innerKinds, List.mem_cons, List.not_mem_nil, or_false] at inside
  rcases inside with equal | equal | equal | equal
  · rwa [equal]
  · rw [equal]
    exact plain.1
  · rw [equal]
    exact plain.2.1
  · rw [equal]
    exact plain.2.2

/-- What does not belong to a name. -/
def endsName (text : Text) : Bool := !startsWith [.word, .dot] text

/-- Names are captured character by character as well. -/
theorem aligned_endsName : Aligned endsName := by
  intro text nonempty goesOn
  by_cases word : (first text).kind = .word
  · refine (goesOn_word word).mono fun rest further => ?_
    simp [endsName, startsWith, kind_eq_word_iff.mpr further]
  · have dot : kindAt text = .dot := by
      rw [kind_first] at word
      simpa [endsName, startsWith, kind_first, word] using goesOn
    rcases dot ▸ sign_kindAt_prefix text with ⟨others, rfl⟩
    exact goesOn_cons.mpr ⟨goesOn, goesOn_nil _ _⟩

end Inside

end ScopedMarkup.Markup.Token
