import ScopedMarkup.Proofs.Css.Sheet.Respacing

/-! # Sheets one after the other

A sheet that was read ends outside blocks and quotes, where a rule may begin. What is
written behind it is read as a sheet of its own, and its rules come behind the others.
-/

namespace ScopedMarkup.Css

theorem Rule.traverseAll_append {σ τ ε : Type} {change : σ → Except ε τ}
    {left right : List (Rule σ)} {changed others : List (Rule τ)}
    (first : traverseAll change left = .ok changed)
    (second : traverseAll change right = .ok others) :
    traverseAll change (left ++ right) = .ok (changed ++ others) := by
  induction left generalizing changed with
  | nil =>
      cases first
      exact second
  | cons rule left induction =>
      rcases exists_of_traverseAll_cons first with ⟨here, further, rfl, own, rest⟩
      rw [List.cons_append, traverseAll, own]
      simp only [induction rest, Except.map, List.cons_append]

namespace Sheet

/-! ## Reading behind other rules -/

/-- The body, behind what was read before it. -/
def Body.behind (before body : Body) : Body :=
  ⟨before.rules ++ body.rules, before.frames ++ body.frames,
    before.declarations ++ body.declarations⟩

/-- The open blocks, with this read before the outermost. -/
def blocksBehind (before : Body) : List (Head × Body) → List (Head × Body)
  | [] => []
  | [(head, body)] => [(head, before.behind body)]
  | block :: next :: around => block :: blocksBehind before (next :: around)

/-- The progress, with this read before it in the sheet. -/
def Progress.behind (before : Body) (progress : Progress) : Progress :=
  if progress.around = [] then { progress with inside := before.behind progress.inside }
  else { progress with around := blocksBehind before progress.around }

section Behind

variable (before : Body)

theorem Body.behind_addRule (body : Body) (rule : Rule Lexeme) :
    (before.behind body).addRule rule = before.behind (body.addRule rule) := by
  simp [behind, addRule]

theorem Body.behind_addDeclaration (body : Body) (declaration : Declaration) :
    (before.behind body).addDeclaration declaration =
      before.behind (body.addDeclaration declaration) := by
  simp [behind, addDeclaration]

theorem Body.behind_addBlock (body inner : Body) (head : Head) :
    (before.behind body).addBlock head inner = before.behind (body.addBlock head inner) := by
  cases head with
  | keyframe key => simp [behind, addBlock, addFrame]
  | _ => exact behind_addRule before body _

theorem resumed_blocksBehind (around : List (Head × Body)) :
    Progress.resumed (blocksBehind before around) = Progress.resumed around := by
  match around with
  | [] | [_] | _ :: _ :: _ => rfl

theorem Progress.behind_awaited (progress : Progress) :
    (progress.behind before).awaited = progress.awaited := by
  rw [behind]
  split <;> rfl

/-- What was read before makes no difference to a move. -/
theorem Progress.behind_advance? (progress : Progress) (text : Text) (move : Move) :
    (progress.behind before).advance? text move =
      (progress.advance? text move).map (behind before) := by
  rcases progress with ⟨awaited, around, inside, lastPiece⟩
  match around with
  | [] =>
      cases move with
      | leave => rfl
      | add rule => simp [behind, advance?, Body.behind_addRule]
      | declare declaration => simp [behind, advance?, Body.behind_addDeclaration]
      | _ => rfl
  | [(head, body)] =>
      cases move with
      | leave => simp [behind, advance?, blocksBehind, Body.behind_addBlock, resumed]
      | _ => rfl
  | block :: next :: around =>
      cases move with
      | leave => simp [behind, advance?, blocksBehind, resumed_blocksBehind]
      | _ => rfl

theorem Progress.eq_of_complete {progress : Progress} (complete : progress.complete = true) :
    progress = ⟨.rule, [], progress.inside, progress.lastPiece⟩ := by
  rcases progress with ⟨awaited, around, inside, lastPiece⟩
  simp only [Progress.complete, Bool.and_eq_true, decide_eq_true_iff, List.isEmpty_iff] at complete
  rcases complete with ⟨rfl, rfl⟩
  rfl

/-- Reading goes on behind other rules as without them. -/
theorem rulesFrom_behind {source text : Text} {progress : Progress} {rules : List (Rule Lexeme)}
    (read : rulesFrom source progress text = .ok rules) :
    rulesFrom source (progress.behind before) text = .ok (before.rules ++ rules) := by
  fun_induction rulesFrom source progress text with
  | case1 progress text rest ended complete =>
      cases read
      rw [progress.eq_of_complete complete]
      exact rulesFrom_eq_ok_iff.mpr (.inl ⟨ended, rfl, rfl⟩)
  | case2 => cases read
  | case3 => cases read
  | case4 => cases read
  | case5 progress text rest nonempty found matched piece next advanced induction =>
      have matched' := matched
      rw [← progress.behind_awaited before] at matched'
      have advanced' := progress.behind_advance? before rest (found.kind.2 piece)
      rw [advanced] at advanced'
      exact (rulesFrom_of_match matched' advanced').trans (induction read)

end Behind

/-! ## Where reading ends -/

/-- Reading that succeeds comes to the end of the text. -/
theorem Reached.exists_end {source text : Text} {last : Option Terminal} {progress : Progress}
    {rules : List (Rule Lexeme)} (reached : Reached source last progress text)
    (read : rulesFrom source progress text = .ok rules) :
    ∃ last progress text, Reached source last progress text ∧ skipGap text = [] ∧
      progress.complete = true ∧ progress.inside.rules = rules := by
  rcases rulesFrom_eq_ok_iff.mp read with
    ⟨ended, complete, rfl⟩ | ⟨found, next, matched, advanced, further⟩
  · exact ⟨last, progress, text, reached, ended, complete, rfl⟩
  · exact (reached.piece matched advanced).exists_end further
termination_by text.length
decreasing_by
  exact Nat.lt_of_lt_of_le (Scanner.rest_length_lt_of_firstMatch? matched)
    (skipGap_suffix text).length_le

/-- Where a rule may come next behind a piece, this piece is a sign. -/
theorem mem_signs_of_awaits_rule {terminal : Terminal} {action : Lexeme → Move} {piece : Lexeme}
    {progress next : Progress} {text : Text}
    (moved : progress.awaited.move? terminal = some action)
    (advanced : progress.advance? text (action piece) = some next)
    (ruled : next.awaited = .rule) : terminal ∈ Terminal.signs := by
  generalize progress.awaited = awaited at moved
  cases moves_of_move? moved
  all_goals first
    | decide
    | (cases advanced; cases ruled)

section Ends

variable {source text : Text} {last : Option Terminal} {progress : Progress}

theorem Reached.mem_signs_of_complete {terminal : Terminal}
    (reached : Reached source (some terminal) progress text)
    (complete : progress.complete = true) : terminal ∈ Terminal.signs := by
  cases reached with
  | piece _ matched advanced =>
      have ruled := congrArg Progress.awaited (progress.eq_of_complete complete)
      exact mem_signs_of_awaits_rule (of_firstMatch?_candidates matched).1 advanced ruled

theorem Terminal.ends_of_mem_signs {terminal : Terminal} (isSign : terminal ∈ signs)
    (rest : Text) : terminal.Ends rest := by
  cases terminal with
  | openBrace | closeBrace | semicolon => trivial
  | _ => exact absurd isSign (by decide)

theorem Reached.space_of_ended (reached : Reached source last progress text)
    (uncommented : Uncommented source) (ended : skipGap text = []) : Space text := by
  rcases exists_space_skipGap (uncommented.of_infix reached.suffix.isInfix) with
    ⟨gap, isSpace, equal⟩
  rw [ended, List.append_nil] at equal
  exact equal ▸ isSpace

/-- No sheet ends with a slash, which could begin a comment with what follows. -/
theorem Reached.getLast?_ne_slash (reached : Reached source last progress text)
    (uncommented : Uncommented source) (ended : skipGap text = [])
    (complete : progress.complete = true) : source.getLast? ≠ some '/' := by
  have space := reached.space_of_ended uncommented ended
  have behind : text.getLast? ≠ some '/' :=
    fun slash => slash_not_mem_of_blank space.blank (List.mem_of_getLast? slash)
  cases reached with
  | start => exact behind
  | @piece last before _ front found reached matched advanced =>
      have isSign := (reached.piece matched advanced).mem_signs_of_complete complete
      have notRaw : found.kind.1 ≠ .prelude ∧ found.kind.1 ≠ .value := by
        constructor
        · exact fun equal => absurd (equal ▸ isSign) (by decide)
        · exact fun equal => absurd (equal ▸ isSign) (by decide)
      have recognises := (of_firstMatch?_candidates matched).2.1
      have stands : found.piece ++ found.rest <:+ source := by
        rw [Scanner.splits_of_firstMatch? matched]
        exact (skipGap_suffix front).trans reached.suffix
      rcases stands with ⟨before, rfl⟩
      rw [List.getLast?_append, List.getLast?_append]
      intro slash
      rcases Option.or_eq_some_iff.mp slash with slash | ⟨empty, -⟩
      · rcases Option.or_eq_some_iff.mp slash with slash | ⟨-, slash⟩
        · exact behind slash
        · exact getLast?_ne_slash_of_recognises recognises notRaw slash
      · have none := (Option.or_eq_none_iff.mp empty).2
        exact ne_nil_of_recognises recognises (List.getLast?_eq_none_iff.mp none)

/-- At its end, the check of blocks is outside quotes and blocks. -/
theorem Reached.walk?_source {limit : Nat} (reached : Reached source last progress text)
    (uncommented : Uncommented source) (ended : skipGap text = [])
    (complete : progress.complete = true)
    (checked : Brackets.curly.check .blocks limit source = .ok ()) :
    Brackets.curly.walk? limit none 0 source = some (none, 0) := by
  rcases reached.exists_walk uncommented ((Brackets.check_eq_ok_iff uncommented).mp checked) with
    ⟨consumed, split, -, walked⟩
  have outside : progress.around = [] := by rw [progress.eq_of_complete complete]
  rw [outside] at walked
  rw [split, Brackets.walk?_append text walked]
  exact passes_space (reached.space_of_ended uncommented ended)

end Ends

/-! ## Two sheets -/

theorem traverseAll_preludeSelector_append {config : Config} {left right : Text}
    {rules rules' : List (Rule Lexeme)} {changed changed' : List (Rule Selector)}
    (first : Rule.traverseAll (preludeSelector config left) rules = .ok changed)
    (second : Rule.traverseAll (preludeSelector config right) rules' = .ok changed')
    (source : Text) :
    Rule.traverseAll (preludeSelector config source) (rules ++ rules') =
      .ok (changed ++ changed') :=
  Rule.traverseAll_append (traverseAll_preludeSelector_of_unplaced_eq rfl first source)
    (traverseAll_preludeSelector_of_unplaced_eq rfl second source)

/-- The rules of two sheets, one after the other. Only the first one has to be free of
comments: one that is left open in it could go on in the second. -/
theorem read_append {config : Config} {left right : Text} {first second : Sheet Selector}
    (uncommented : Uncommented left) (read : Sheet.read config left = .ok first)
    (read' : Sheet.read config right = .ok second) :
    Sheet.read config (left ++ right) = .ok ⟨first.rules ++ second.rules⟩ := by
  rcases read_eq_ok_iff.mp read with ⟨checked, rules, raw, selected⟩
  rcases read_eq_ok_iff.mp read' with ⟨checked', rules', raw', selected'⟩
  rcases Reached.start.exists_end raw with ⟨last, progress, text, reached, ended, complete, inside⟩
  have nested : Brackets.curly.check .blocks (config.maxDepth + 1) (left ++ right) = .ok () := by
    have walked := reached.walk?_source uncommented ended complete checked
    have apart := reached.getLast?_ne_slash uncommented ended complete
    rw [Brackets.check_eq_ok_iff_overflow?] at checked' ⊢
    exact (Brackets.overflow?_append uncommented (fun slash => absurd slash apart) walked).trans
      checked'
  -- Reading comes to the end of the first sheet, and goes on as at the start of the second.
  have ends : ∀ terminal, last = some terminal → terminal.Ends right := by
    rintro terminal rfl
    exact Terminal.ends_of_mem_signs (reached.mem_signs_of_complete complete) right
  rcases reached.exists_replace (List.append_nil left).symm uncommented raw text
    (List.append_nil text).symm fun _ => ends with ⟨progress', alike, run⟩
  have skipped : skipGap (text ++ right) = skipGap right :=
    (isGap_of_space (reached.space_of_ended uncommented ended)).skipGap_append right
  have begun : progress'.unplaced = ((Progress.start right).behind progress.inside).unplaced := by
    rw [alike, progress.eq_of_complete complete]
    simp [Progress.behind, Progress.start, Body.behind, Body.empty, Progress.unplaced]
  rcases exists_rulesFrom_of_unplaced_eq (left ++ right) (rulesFrom_behind progress.inside raw')
    begun skipped with ⟨all, rest, unplaced⟩
  rw [inside] at unplaced
  refine read_eq_ok_iff.mpr ⟨nested, all, run.trans rest, ?_⟩
  exact traverseAll_preludeSelector_of_unplaced_eq unplaced
    (traverseAll_preludeSelector_append selected selected' left) _

/-- A name space in front of a rule, which a comment with a brace and a quote begins. -/
theorem read_append_of_commented :
    Uncommented "@namespace x; " ∧
      Sheet.read .standard (("@namespace x; " : Text) ++ ("/* \x7b ' */ a\x7bb:c\x7d" : Text)) =
        .ok ⟨[.nameSpace "x", .style (.simple (.type "a")) [⟨"b", "c"⟩]]⟩ := by
  have uncommented : Uncommented "@namespace x; " := uncommented_of_not_mem (by decide)
  have first : Sheet.read .standard "@namespace x; " = .ok ⟨[.nameSpace "x"]⟩ := by
    decide +kernel
  have second : Sheet.read .standard "/* \x7b ' */ a\x7bb:c\x7d" =
      .ok ⟨[.style (.simple (.type "a")) [⟨"b", "c"⟩]]⟩ := by
    decide +kernel
  exact ⟨uncommented, read_append uncommented first second⟩

end Sheet

end ScopedMarkup.Css
