import ScopedMarkup.Proofs.Css.Sheet.Move
import ScopedMarkup.Proofs.Css.Sheet.Nesting

/-! # What reading a sheet gives

Reading keeps everything that it has put together formed, and it stays as deep in
blocks as the walk over the text that checks their nesting. So the rules of a
sheet that was read are formed and fit into the levels that were checked.
-/

namespace ScopedMarkup.Css.Sheet

/-! ## What is kept formed -/

/-- A prelude as a sheet keeps it until it is read as a selector. -/
def Lexeme.Kept (prelude : Lexeme) : Prop :=
  Uncommented prelude.text ∧ rawSpan.Whole prelude.text

def Head.Written : Head → Prop
  | .conditional clause condition => clause.Written ∧ IsPrelude condition
  | .keyframes keyword name => IsKeyframesKeyword keyword ∧ IsPrelude name
  | .keyframe key => IsPrelude key
  | .fontFace => True
  | .page selector => selector = [] ∨ IsPrelude selector
  | .style prelude => prelude.Kept

def Awaited.Written : Awaited → Prop
  | .condition clause => clause.Written
  | .keyframesName keyword => IsKeyframesKeyword keyword
  | .block head => head.Written
  | .colon name | .value name => IsProperty name
  | .rule | .charsetValue | .nameSpaceValue | .ruleEnd | .frame | .pageSelector | .declaration
  | .declarationEnd => True

def Move.Written : Move → Prop
  | .await next => next.Written
  | .add rule => ∀ levels, Rule.Formed Lexeme.Kept levels rule
  | .declare declaration => declaration.Written
  | .enter head => head.Written
  | .leave => True

/-- What a body holds can be written and fits into so many levels of blocks. -/
structure Body.Formed (levels : Nat) (body : Body) : Prop where
  rules : Rule.AllFormed Lexeme.Kept levels body.rules
  frames : ∀ frame ∈ body.frames, 1 ≤ levels ∧ frame.Written
  declarations : ∀ declaration ∈ body.declarations, declaration.Written

/-- Each open block takes one level from what is inside. -/
def FormedAround (limit : Nat) : List (Head × Body) → Prop
  | [] => True
  | (head, body) :: around =>
      head.Written ∧ body.Formed (limit - around.length) ∧ FormedAround limit around

structure Progress.Formed (limit : Nat) (progress : Progress) : Prop where
  awaited : progress.awaited.Written
  around : FormedAround limit progress.around
  inside : progress.inside.Formed (limit - progress.around.length)

theorem Body.formed_empty (levels : Nat) : Body.empty.Formed levels :=
  ⟨trivial, List.forall_mem_nil _, List.forall_mem_nil _⟩

theorem Body.Formed.addRule {levels : Nat} {body : Body} {rule : Rule Lexeme}
    (formed : body.Formed levels) (added : Rule.Formed Lexeme.Kept levels rule) :
    (body.addRule rule).Formed levels :=
  ⟨Rule.allFormed_append formed.rules ⟨added, trivial⟩, formed.frames, formed.declarations⟩

/-- A block that is closed becomes part of the body around it, one level up. -/
theorem Body.Formed.addBlock {levels : Nat} {body inner : Body} {head : Head}
    (formed : body.Formed levels) (written : head.Written) (positive : 1 ≤ levels)
    (inside : inner.Formed (levels - 1)) : (body.addBlock head inner).Formed levels := by
  cases head with
  | conditional clause condition =>
      exact formed.addRule ⟨positive, written.1, written.2, inside.rules⟩
  | keyframes keyword name =>
      refine formed.addRule ⟨positive, written.1, written.2, fun frame member => ?_⟩
      have further := inside.frames frame member
      exact ⟨by omega, further.2⟩
  | keyframe key =>
      refine ⟨formed.rules, ?_, formed.declarations⟩
      intro frame member
      rcases List.mem_append.mp member with member | member
      · exact formed.frames frame member
      · rw [List.mem_singleton.mp member]
        exact ⟨positive, written, inside.declarations⟩
  | fontFace => exact formed.addRule ⟨positive, inside.declarations⟩
  | page selector => exact formed.addRule ⟨positive, written, inside.declarations⟩
  | style prelude => exact formed.addRule ⟨positive, written, inside.declarations⟩

theorem Head.written_inside (head : Head) : head.inside.Written := by
  cases head <;> trivial

theorem Progress.written_resumed (around : List (Head × Body)) : (resumed around).Written := by
  cases around with
  | nil => trivial
  | cons block around => exact block.1.written_inside

/-- What a piece does keeps the progress formed. -/
theorem Progress.Formed.advance {limit : Nat} {progress next : Progress} {text : Text}
    {move : Move} (formed : progress.Formed limit) (shallow : progress.around.length ≤ limit)
    (written : move.Written) (advanced : progress.advance? text move = some next) :
    next.Formed limit := by
  cases move with
  | await awaited =>
      cases advanced
      exact ⟨written, formed.around, formed.inside⟩
  | add rule =>
      cases advanced
      exact ⟨trivial, formed.around, formed.inside.addRule (written _)⟩
  | declare declaration =>
      cases advanced
      refine ⟨trivial, formed.around, formed.inside.rules, formed.inside.frames, ?_⟩
      intro other member
      rcases List.mem_append.mp member with member | member
      · exact formed.inside.declarations other member
      · rw [List.mem_singleton.mp member]
        exact written
  | enter head =>
      cases advanced
      exact ⟨head.written_inside, ⟨written, formed.inside, formed.around⟩, Body.formed_empty _⟩
  | leave =>
      rcases progress with ⟨awaited, around, inside, lastPiece⟩
      cases around with
      | nil => simp [advance?] at advanced
      | cons block around =>
          cases advanced
          rcases formed.around with ⟨headWritten, body, around⟩
          have inner := formed.inside
          simp only [List.length_cons] at shallow inner
          refine ⟨written_resumed _, around, body.addBlock headWritten (by omega) ?_⟩
          rwa [← Nat.sub_sub] at inner

/-! ## What a piece does -/

section Moves

variable {awaited : Awaited} {terminal : Terminal} {action : Lexeme → Move} {piece : Lexeme}

/-- What an awaited piece does only brings in what can be written. -/
theorem written_of_move? (moved : awaited.move? terminal = some action)
    (written : awaited.Written) (recognises : terminal.Recognises piece.text)
    (uncommented : Uncommented piece.text) : (action piece).Written := by
  have cleaned (prelude : Terminal.prelude.Recognises piece.text) :
      IsPrelude (clean piece.text) := by
    rw [uncommented.clean]
    exact prelude.1.isRaw_trim prelude.2
  cases moves_of_move? moved with
  | stylePrelude => exact ⟨uncommented, recognises.2⟩
  | keyframesKeyword | documentKeyword | property => exact recognises
  | charsetValue => exact fun _ => recognises
  | nameSpaceValue => exact fun _ => cleaned recognises
  | condition | keyframesName => exact ⟨written, cleaned recognises⟩
  | frameKey => exact cleaned recognises
  | pageSelector => exact .inr (cleaned recognises)
  | pageOpen => exact .inl rfl
  | blockOpen | colon => exact written
  | value => exact ⟨written, recognises.1.isRaw_trim recognises.2⟩
  | _ => trivial

/-- The walk over a piece opens and closes the blocks that reading does. -/
theorem walk?_of_advance? {limit : Nat} {progress next : Progress} {text : Text}
    (moved : progress.awaited.move? terminal = some action)
    (recognises : terminal.Recognises piece.text)
    (shallow : progress.around.length ≤ limit)
    (advanced : progress.advance? text (action piece) = some next)
    (walked : (Brackets.curly.walk? limit none progress.around.length piece.text).isSome = true) :
    next.around.length ≤ limit ∧
      Brackets.curly.walk? limit none progress.around.length piece.text =
        some (none, ↑next.around.length) := by
  by_cases opens : terminal = .openBrace
  · subst opens
    rcases enter_of_openBrace moved with ⟨head, enters⟩
    rw [enters] at advanced
    cases advanced
    have brace : piece.text = ['{'] := recognises
    rw [brace] at walked ⊢
    by_cases exceeds : (progress.around.length : Int) + 1 > limit
    · simp [Brackets.walk?, Brackets.step, Quote.of?, Brackets.curly, exceeds] at walked
    · simp only [List.length_cons, Int.natCast_add, Int.cast_ofNat_Int]
      refine ⟨by omega, ?_⟩
      simp [Brackets.walk?, Brackets.step, Quote.of?, Brackets.curly, exceeds]
  · by_cases closes : terminal = .closeBrace
    · subst closes
      rw [leave_of_closeBrace moved] at advanced
      rcases progress with ⟨awaited, around, inside, lastPiece⟩
      cases around with
      | nil => simp [Progress.advance?] at advanced
      | cons block around =>
          cases advanced
          have brace : piece.text = ['}'] := recognises
          simp only [List.length_cons] at shallow
          refine ⟨by simp only; omega, ?_⟩
          simp [brace, Brackets.walk?, Brackets.step, Quote.of?, Brackets.curly]
    · rw [around_of_advance? moved ⟨opens, closes⟩ advanced]
      exact ⟨shallow, walk?_of_recognises recognises ⟨opens, closes⟩⟩

end Moves

/-- What a candidate that matched is and recognised. -/
theorem of_firstMatch?_candidates {awaited : Awaited} {text : Text}
    {found : Scanner.Match (Terminal × (Lexeme → Move))}
    (matched : Scanner.firstMatch? (fun candidate => candidate.1.scanner) text
      awaited.candidates = some found) :
    awaited.move? found.kind.1 = some found.kind.2 ∧ found.kind.1.Recognises found.piece ∧
      found.piece ++ found.rest = text := by
  rcases Scanner.scan_of_firstMatch? matched with ⟨member, -, scanned⟩
  rcases List.mem_filterMap.mp member with ⟨terminal, -, candidate⟩
  rcases Option.map_eq_some_iff.mp candidate with ⟨action, moved, equal⟩
  rw [← equal] at scanned ⊢
  exact ⟨moved, recognises_of_scan scanned, Scanner.splits_of_firstMatch? matched⟩

/-- The invariant of reading: what has been put together is formed, and the walk
goes on over the rest of the text. -/
theorem allFormed_of_rulesFrom {limit : Nat} {source text : Text} {progress : Progress}
    {rules : List (Rule Lexeme)} (uncommented : Uncommented text)
    (formed : progress.Formed limit) (shallow : progress.around.length ≤ limit)
    (walked : (Brackets.curly.walk? limit none progress.around.length text).isSome = true)
    (read : rulesFrom source progress text = .ok rules) :
    Rule.AllFormed Lexeme.Kept limit rules := by
  fun_induction rulesFrom source progress text with
  | case1 progress text rest ended complete =>
      cases read
      have closed : progress.around = [] :=
        List.isEmpty_iff.mp (Bool.and_eq_true .. ▸ complete).2
      have inside := formed.inside.rules
      rwa [closed] at inside
  | case2 => simp at read
  | case3 => simp at read
  | case4 => simp at read
  | case5 progress text rest nonempty found matched piece next advanced induction =>
      rcases of_firstMatch?_candidates matched with ⟨moved, recognises, split⟩
      rcases exists_space_skipGap uncommented with ⟨gap, space, equal⟩
      have remaining : Uncommented (found.piece ++ found.rest) :=
        split ▸ uncommented.of_infix (skipGap_suffix text).isInfix
      have walkedRest : (Brackets.curly.walk? limit none progress.around.length
          (found.piece ++ found.rest)).isSome = true := by
        rw [equal, Brackets.walk?_append _ (walk?_of_skeleton (skeleton_blank space.blank))]
          at walked
        rwa [split]
      rcases walk?_of_advance? moved recognises shallow advanced
        (Brackets.isSome_walk?_of_append walkedRest) with ⟨stillShallow, walkedPiece⟩
      have furtherWalked : (Brackets.curly.walk? limit none next.around.length
          found.rest).isSome = true := by
        rwa [Brackets.walk?_append _ walkedPiece] at walkedRest
      have written : (found.kind.2 piece).Written :=
        written_of_move? moved formed.awaited recognises
          (remaining.of_infix (List.prefix_append found.piece found.rest).isInfix)
      exact induction (remaining.of_infix (List.suffix_append _ _).isInfix)
        (formed.advance shallow written advanced) stillShallow furtherWalked read

/-- The rules of a text that passed the check of blocks are formed, and they fit
into the levels of the check. -/
theorem allFormed_of_rawRules {limit : Nat} {source : Text} {rules : List (Rule Lexeme)}
    (uncommented : Uncommented source)
    (checked : Brackets.curly.check .blocks limit source = .ok ())
    (read : rawRules source = .ok rules) : Rule.AllFormed Lexeme.Kept limit rules := by
  have start : (Progress.start source).Formed limit :=
    ⟨trivial, trivial, Body.formed_empty limit⟩
  exact allFormed_of_rulesFrom uncommented start (Nat.zero_le limit)
    ((Brackets.check_eq_ok_iff uncommented).mp checked) read

/-! ## Sheets that were read -/

theorem preludeSelector_eq_ok_iff {config : Config} {source : Text} {prelude : Lexeme}
    {selector : Selector} :
    preludeSelector config source prelude = .ok selector ↔
      Selector.read config prelude.text = .ok selector := by
  rw [preludeSelector]
  cases Selector.read config prelude.text <;> simp

theorem read_eq_ok_iff {config : Config} {source : Text} {sheet : Sheet Selector} :
    Sheet.read config source = .ok sheet ↔
      Brackets.curly.check .blocks (config.maxDepth + 1) source = .ok () ∧
        ∃ rules, rawRules source = .ok rules ∧
          Rule.traverseAll (preludeSelector config source) rules = .ok sheet.rules := by
  rw [Sheet.read]
  cases Brackets.curly.check .blocks (config.maxDepth + 1) source with
  | error fault => simp
  | ok =>
      cases rawRules source with
      | error fault => simp
      | ok rules =>
          constructor
          · intro read
            rcases map_eq_ok_iff.mp read with ⟨changed, traversed, rfl⟩
            exact ⟨rfl, rules, rfl, traversed⟩
          · rintro ⟨-, raws, equal, traversed⟩
            cases equal
            exact map_eq_ok_iff.mpr ⟨sheet.rules, traversed, rfl⟩

end ScopedMarkup.Css.Sheet
