import ScopedMarkup.Proofs.Css.Selector.Recognition

/-! # Selectors read back

Tokens that fit are read from each of their spellings, so a formed selector is
read from each spelling of its tokens, and from its own text.
-/

namespace ScopedMarkup.Css.Selector

open Terminal

/-! ## One terminal for each token -/

/-- Where a kind is recognised and all kinds before it are refused, it is found. -/
theorem firstMatch?_of_refused {kind : Terminal} {kinds : List Terminal} {text piece rest : Text}
    (member : kind ∈ kinds)
    (refused : ∀ other ∈ kinds.takeWhile fun other => other ≠ kind,
      other.scanner.scan text = none)
    (scanned : kind.scanner.scan text = some (piece, rest)) (nonempty : piece ≠ []) :
    Scanner.firstMatch? Terminal.scanner text kinds = some ⟨kind, piece, rest⟩ := by
  rcases Scanner.exists_split_takeWhile member with ⟨after, split⟩
  rw [split]
  exact Scanner.firstMatch?_eq_some refused scanned nonempty

/-- The progress that a position stands for. -/
def Progress.at (position : Position) (openNegations : Nat) (lastToken : Text) : Progress :=
  ⟨decide (position = .opening), openNegations, lastToken⟩

theorem mem_candidates {position : Position} {openNegations : Nat} {lastToken : Text}
    {terminal : Terminal} (allowed : position ≠ .opening ∨ terminal ∈ Terminal.opening) :
    terminal ∈ (Progress.at position openNegations lastToken).candidates := by
  unfold Progress.candidates
  rcases allowed with ended | opens
  · rw [if_neg (by simpa [Progress.at] using ended)]
    cases terminal <;> decide
  · split
    · exact opens
    · cases terminal <;> decide

theorem takeWhile_candidates {position : Position} {openNegations : Nat} {lastToken : Text}
    {terminal : Terminal}
    (member : terminal ∈ (Progress.at position openNegations lastToken).candidates) :
    ∀ other ∈ (Progress.at position openNegations lastToken).candidates.takeWhile
      fun other => other ≠ terminal, other ∈ terminal.earlier := by
  unfold Progress.candidates at member ⊢
  split
  · rename_i wanted
    rw [if_pos wanted] at member
    cases terminal <;> first | decide | exact absurd member (by decide)
  · intro other inside
    exact inside

theorem ne_nil_of_spells {position : Position} {openNegations : Nat} {token : Token}
    {tokens : List Token} {piece : Text} (fits : Fits position openNegations (token :: tokens))
    (spells : Spells token piece) : piece ≠ [] := by
  have ofSign {sign : Char} (signed : SpellsSign sign piece) : piece ≠ [] := by
    rcases signed with ⟨before, after, rfl, -⟩
    simp
  match token with
  | .simple part =>
      cases spells
      rcases exists_render fits.1 with ⟨first, others, equal, -⟩
      simp [equal]
  | .malformed _ => exact fits.elim
  | .combinator .descendant => exact spells.2
  | .combinator .child | .combinator .adjacent | .combinator .sibling => exact ofSign spells
  | .comma => exact ofSign spells
  | .negationOpen | .negationClose =>
      rcases spells with ⟨blanks, rfl, -⟩
      simp

/-- The token that stands next is recognised from each of its spellings. -/
theorem recognised_of_fits {position : Position} {openNegations : Nat} {token : Token}
    {tokens : List Token} {piece rest : Text}
    (fits : Fits position openNegations (token :: tokens)) (spells : Spells token piece)
    (further : Spelled tokens rest) : Recognised token piece rest := by
  match token with
  | .simple part =>
      cases spells
      rcases fits with ⟨written, -, goesOn⟩
      refine recognised_simple written fun named => ?_
      rw [named] at goesOn
      exact leaves_of_spelled goesOn further
  | .malformed _ => exact fits.elim
  | .combinator _ => exact recognised_combinator spells (beginsWithPart_of_spelled fits.2 further)
  | .comma => exact recognised_comma spells (beginsWithPart_of_spelled fits.2 further)
  | .negationOpen => exact recognised_negationOpen spells (beginsWithPart_of_spelled fits further)
  | .negationClose => exact recognised_negationClose rest spells

/-- The token that stands next is looked for, and leads on to a position where the other
tokens fit. -/
theorem exists_advance {position : Position} {openNegations : Nat} {token : Token}
    {tokens : List Token} (lastToken : Text)
    (fits : Fits position openNegations (token :: tokens)) :
    Terminal.ofToken token ∈ (Progress.at position openNegations lastToken).candidates ∧
      ∃ reached remaining, Fits reached remaining tokens ∧
        ∀ text, (Progress.at position openNegations lastToken).advance? (.ofToken token) text =
          some (.at reached remaining text) := by
  match token with
  | .simple part =>
      refine ⟨mem_candidates (.inr ?_), .after part.endsName, openNegations, fits.2.2,
        fun text => ?_⟩
      · cases part <;> simp [Terminal.ofToken, Terminal.ofPart, Terminal.opening]
      · rw [Progress.at, Progress.at, decide_eq_false (Position.after_ne_opening _)]
        cases part <;> rfl
  | .malformed _ => exact fits.elim
  | .combinator combinator =>
      refine ⟨mem_candidates (.inl fits.1), .opening, openNegations, fits.2, fun text => ?_⟩
      cases combinator <;> rfl
  | .comma => exact ⟨mem_candidates (.inl fits.1), .opening, openNegations, fits.2, fun _ => rfl⟩
  | .negationOpen =>
      exact ⟨mem_candidates (.inr (by decide)), .opening, openNegations + 1, fits, fun _ => rfl⟩
  | .negationClose =>
      rcases fits with ⟨ended, opened, goesOn⟩
      refine ⟨mem_candidates (.inl ended), .afterPart, openNegations - 1, goesOn, fun text => ?_⟩
      simp [Progress.advance?, Progress.at, Terminal.ofToken, Nat.ne_of_gt opened]

theorem tokensFrom_of_match {progress next : Progress} {text : Text} {tokens : List Token}
    {found : Scanner.Match Terminal}
    (matched : Scanner.firstMatch? Terminal.scanner text progress.candidates = some found)
    (advanced : progress.advance? found.kind text = some next)
    (read : tokensFrom next found.rest = .ok tokens) :
    tokensFrom progress text = .ok (Token.ofTerminal found.kind found.piece :: tokens) := by
  have nonempty : text ≠ [] := by
    rintro rfl
    have shorter := Scanner.rest_length_lt_of_firstMatch? matched
    simp at shorter
  unfold tokensFrom
  rw [if_neg nonempty]
  split
  · rename_i none
    rw [matched] at none
    simp at none
  · rename_i other same
    rw [matched] at same
    cases same
    rw [advanced]
    simp only [read]
    rfl

/-- Tokens that fit are read from each of their spellings. -/
theorem tokensFrom_of_spelled {tokens : List Token} {position : Position} {openNegations : Nat}
    {text : Text} (fits : Fits position openNegations tokens) (spelled : Spelled tokens text)
    (lastToken : Text) :
    tokensFrom (.at position openNegations lastToken) text = .ok tokens := by
  induction tokens generalizing position openNegations text lastToken with
  | nil =>
      cases spelled
      have complete : (Progress.at position openNegations lastToken).complete = true := by
        simp [Progress.complete, Progress.at, fits.1, fits.2]
      unfold tokensFrom
      rw [if_pos rfl, if_pos complete]
  | cons token tokens induction =>
      rcases spelled with ⟨piece, rest, rfl, spells, further⟩
      rcases exists_advance lastToken fits with ⟨member, reached, remaining, goesOn, advanced⟩
      have recognised := recognised_of_fits fits spells further
      have matched := firstMatch?_of_refused member
        (fun other inside => recognised.refused other (takeWhile_candidates member other inside))
        recognised.scanned (ne_nil_of_spells fits spells)
      have read := tokensFrom_of_match matched (advanced (piece ++ rest))
        (induction goesOn further (piece ++ rest))
      rwa [recognised.made] at read

/-! ## Blanks around, and parentheses in, a spelling -/

/-- The text ends with a character that is neither a blank nor a slash. -/
def EndsSolid (text : Text) : Prop :=
  ∃ front last, text = front ++ [last] ∧ isBlank last = false ∧ last ≠ '/'

theorem EndsSolid.append {text : Text} (lead : Text) (ends : EndsSolid text) :
    EndsSolid (lead ++ text) := by
  rcases ends with ⟨front, last, rfl, solid⟩
  exact ⟨lead ++ front, last, by rw [List.append_assoc], solid⟩

theorem endsSolid_nameFrom {starts : Char → Bool} {name : Text} (form : NameFrom starts name)
    (starting : ∀ character, starts character = true → continuesName character = true) :
    EndsSolid name := by
  have continuing := form.continues starting
  rcases form with ⟨first, rest, rfl, -⟩
  have nonempty : first :: rest ≠ [] := List.cons_ne_nil first rest
  have continues := continuing _ (List.getLast_mem nonempty)
  refine ⟨_, _, (List.dropLast_concat_getLast nonempty).symm,
    isBlank_eq_false_of_continuesName continues, fun slash => ?_⟩
  rw [slash] at continues
  exact absurd continues (by decide)

theorem endsSolid_render {part : Simple} (written : part.Written) : EndsSolid part.render := by
  cases written with
  | any => exact ⟨[], '*', rfl, by decide, by decide⟩
  | type form => exact endsSolid_nameFrom form fun _ => continuesName_of_startsName
  | @className hyphen name hyphens form =>
      exact (endsSolid_nameFrom form fun _ => continuesName_of_startsName).append ('.' :: hyphen)
  | id form => exact (endsSolid_nameFrom form fun _ => id).append ['#']
  | bareBrackets => exact ⟨_, ']', rfl, by decide, by decide⟩
  | brackets => exact ⟨_, ']', rfl, by decide, by decide⟩
  | @pseudo separator _ _ form =>
      exact (endsSolid_nameFrom form fun _ => continuesName_of_startsPseudo).append separator
  | function => exact ⟨_, ')', rfl, by decide, by decide⟩

theorem leaves_reverse_append {left right : Text} (nonempty : right ≠ [])
    (leaves : Text.Leaves isBlank right.reverse) : Text.Leaves isBlank (left ++ right).reverse := by
  rw [List.reverse_append]
  cases reversed : right.reverse with
  | nil => exact absurd (List.reverse_eq_nil_iff.mp reversed) nonempty
  | cons last others =>
      rw [reversed] at leaves
      exact Text.leaves_cons.mpr (Text.leaves_cons.mp leaves)

/-- A spelling that may end a selector ends with no blank. -/
theorem leaves_reverse_of_spelled {tokens : List Token} {position : Position}
    {openNegations : Nat} {text : Text} (fits : Fits position openNegations tokens)
    (spelled : Spelled tokens text) : Text.Leaves isBlank text.reverse := by
  induction tokens generalizing position openNegations text with
  | nil =>
      cases spelled
      exact Text.leaves_nil _
  | cons token tokens induction =>
      rcases spelled with ⟨piece, rest, rfl, spells, further⟩
      rcases exists_advance [] fits with ⟨-, reached, remaining, goesOn, -⟩
      cases tokens with
      | cons second tokens =>
          have restNonempty : rest ≠ [] := by
            rcases further with ⟨next, others, rfl, nextSpells, -⟩
            simp [ne_nil_of_spells goesOn nextSpells]
          exact leaves_reverse_append restNonempty (induction goesOn further)
      | nil =>
          cases further
          rw [List.append_nil]
          match token with
          | .simple part =>
              cases spells
              rcases endsSolid_render fits.1 with ⟨front, last, equal, nonblank, -⟩
              rw [equal, List.reverse_append]
              exact Text.leaves_cons.mpr nonblank
          | .malformed _ => exact fits.elim
          | .combinator _ | .comma => exact absurd rfl fits.2.1
          | .negationOpen => exact absurd rfl fits.1
          | .negationClose =>
              rcases spells with ⟨blanks, rfl, -⟩
              rw [List.reverse_append]
              exact Text.leaves_cons.mpr (by decide)

theorem trimmed_of_spelled {tokens : List Token} {text : Text} (fits : Fits .opening 0 tokens)
    (spelled : Spelled tokens text) : text.Trimmed :=
  ⟨leaves_isBlank_of_beginsWithPart (beginsWithPart_of_spelled fits spelled),
    leaves_reverse_of_spelled fits spelled⟩

theorem skeleton_of_spellsSign {sign : Char} {piece : Text} (spells : SpellsSign sign piece)
    (unstructural : isStructural sign = false) : skeleton piece = [] := by
  rcases spells with ⟨before, after, rfl, blankBefore, blankAfter⟩
  rw [skeleton_append, skeleton_cons_of_not after unstructural, skeleton_blank blankBefore,
    skeleton_blank blankAfter, List.append_nil]

theorem skeleton_of_spells {token : Token} {piece : Text} (spells : Spells token piece) :
    skeleton piece = skeleton token.render := by
  match token with
  | .simple _ => rw [spells]; rfl
  | .malformed _ => exact spells.elim
  | .combinator .descendant => rw [skeleton_blank spells.1]; rfl
  | .combinator .child | .combinator .adjacent | .combinator .sibling | .comma =>
      rw [skeleton_of_spellsSign spells (by decide)]; rfl
  | .negationOpen =>
      rcases spells with ⟨blanks, rfl, blank⟩
      rw [skeleton_append, skeleton_blank blank]; rfl
  | .negationClose =>
      rcases spells with ⟨blanks, rfl, blank⟩
      rw [skeleton_append, skeleton_blank blank]; rfl

theorem skeleton_of_spelled {tokens : List Token} {text : Text} (spelled : Spelled tokens text) :
    skeleton text = skeleton (renderTokens tokens) := by
  induction tokens generalizing text with
  | nil => rw [spelled]; rfl
  | cons token tokens induction =>
      rcases spelled with ⟨piece, rest, rfl, spells, further⟩
      rw [skeleton_append, renderTokens_cons, skeleton_append, skeleton_of_spells spells,
        induction further]

/-! ## Comments in a spelling -/

theorem slash_not_mem_of_spellsSign {sign : Char} {piece : Text} (spells : SpellsSign sign piece)
    (different : sign ≠ '/') : '/' ∉ piece := by
  rcases spells with ⟨before, after, rfl, blankBefore, blankAfter⟩
  simp [slash_not_mem_of_blank blankBefore, slash_not_mem_of_blank blankAfter, different.symm]

/-- Only parts of compounds hold slashes, and they end in another character. -/
theorem slash_of_spells {position : Position} {openNegations : Nat} {token : Token}
    {tokens : List Token} {piece : Text} (fits : Fits position openNegations (token :: tokens))
    (spells : Spells token piece) :
    piece.getLast? ≠ some '/' ∧ (Uncommented piece ↔ Uncommented token.render) := by
  have clear (absent : '/' ∉ piece) (printable : Uncommented token.render) :
      piece.getLast? ≠ some '/' ∧ (Uncommented piece ↔ Uncommented token.render) :=
    ⟨fun last => absent (List.mem_of_getLast? last),
      iff_of_true (uncommented_of_not_mem absent) printable⟩
  match token with
  | .simple part =>
      cases spells
      rcases endsSolid_render fits.1 with ⟨front, last, equal, -, different⟩
      refine ⟨?_, Iff.rfl⟩
      rw [equal, List.getLast?_concat]
      simpa using different
  | .malformed _ => exact fits.elim
  | .combinator .descendant => exact clear (slash_not_mem_of_blank spells.1) (by decide)
  | .combinator .child | .combinator .adjacent | .combinator .sibling | .comma =>
      exact clear (slash_not_mem_of_spellsSign spells (by decide)) (by decide)
  | .negationOpen =>
      rcases spells with ⟨blanks, rfl, blank⟩
      exact clear (by simp [slash_not_mem_of_blank blank]) (by decide)
  | .negationClose =>
      rcases spells with ⟨blanks, rfl, blank⟩
      exact clear (by simp [slash_not_mem_of_blank blank]) (by decide)

/-- No comment opens where two tokens meet. -/
theorem uncommented_iff_of_spelled {position : Position} {openNegations : Nat}
    {tokens : List Token} {text : Text} (fits : Fits position openNegations tokens)
    (spelled : Spelled tokens text) :
    Uncommented text ↔ ∀ token ∈ tokens, Uncommented token.render := by
  induction tokens generalizing position openNegations text with
  | nil =>
      rw [spelled]
      simp [uncommented_nil]
  | cons token tokens induction =>
      rcases spelled with ⟨piece, rest, rfl, spells, further⟩
      rcases fits.exists_tail with ⟨reached, remaining, fitsFurther⟩
      rcases slash_of_spells fits spells with ⟨ends, same⟩
      rw [uncommented_append ends, same, induction fitsFurther further, List.forall_mem_cons]

/-! ## Selectors -/

/-- A formed selector is read from each spelling of its tokens, with any blanks
around it, unless the spelling nests too deep. -/
theorem read_of_spelled {config : Config} {selector : Selector} {before text after : Text}
    (formed : Formed .whole selector) (spelled : Spelled selector.toTokens text)
    (blankBefore : before.Blank) (blankAfter : after.Blank)
    (uncommented : Uncommented (before ++ text ++ after))
    (checked : Brackets.round.check .selector config.maxDepth text = .ok ()) :
    read config (before ++ text ++ after) = .ok selector := by
  have fits := formed.fits
  have read : tokens text = .ok selector.toTokens := tokensFrom_of_spelled fits spelled text
  have sound : selector.toTokens.findSome? Token.malformed? = none :=
    List.findSome?_eq_none_iff.mpr fits.sound
  rw [Selector.read, uncommented.clean,
    Text.trim_pad blankBefore (trimmed_of_spelled fits spelled) blankAfter, ofClean, checked]
  simp only [read, sound, formed.ofTokens_toTokens]

/-- A selector that was read is read again from its text. -/
theorem read_render {config : Config} {selector : Selector} (formed : Formed .whole selector)
    (uncommented : Uncommented selector.render)
    (checked : Brackets.round.check .selector config.maxDepth selector.render = .ok ()) :
    read config selector.render = .ok selector := by
  have spelled := spelled_renderTokens formed.fits.sound
  rw [renderTokens_toTokens] at spelled
  have alone : Uncommented ([] ++ selector.render ++ []) := by simpa using uncommented
  have read := read_of_spelled formed spelled Text.blank_nil Text.blank_nil alone checked
  simpa using read

end ScopedMarkup.Css.Selector
