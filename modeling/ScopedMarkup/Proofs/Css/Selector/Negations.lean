import ScopedMarkup.Proofs.Css.Selector.Reading
import ScopedMarkup.Proofs.Css.Settled

/-! # How many negations nest

The check of parentheses bounds how deep the negations of a selector nest, apart from the
closing parentheses between square brackets: each of these gives the check a level back,
while nothing ends there for the reader.
-/

namespace ScopedMarkup.Css

/-! ## Quotes on the way through a text -/

/-- The quote that lies open behind one more character. -/
def Quote.behind : Option Quote → Char → Option Quote
  | none, character => of? character
  | some quote, character => if character = quote.character then none else some quote

/-- The characters that do not lie behind an open quote. -/
def unquoted : Option Quote → Text → Text
  | _, [] => []
  | none, first :: rest => first :: unquoted (Quote.behind none first) rest
  | some quote, first :: rest => unquoted (Quote.behind (some quote) first) rest

example : unquoted none "a=')'b)" = ("a='b)" : Text) := by decide

/-- A span keeps the quotes of its text in view. -/
theorem Span.quote_of_after? {span : Span} {zone last : Zone} {text : Text}
    (reached : span.after? zone text = some last) :
    last.quote = text.foldl Quote.behind zone.quote := by
  induction text generalizing zone with
  | nil =>
      cases reached
      rfl
  | cons first text induction =>
      rw [after?] at reached
      cases stepped : span.step zone first with
      | none => simp [stepped] at reached
      | some next =>
          rw [stepped] at reached
          have taken : next.quote = Quote.behind zone.quote first := by
            unfold step at stepped
            grind [Quote.behind, Zone.plain]
          rw [induction reached, taken, List.foldl_cons]

namespace Brackets

variable {brackets : Brackets} {limit : Nat} {quote next : Option Quote} {depth reached : Int}

theorem of_step {character : Char}
    (taken : brackets.step limit quote depth character = some (next, reached))
    (fits : depth ≤ limit) :
    next = Quote.behind quote character ∧ reached ≤ limit ∧
      (quote ≠ none → reached = depth) ∧
      depth ≤ reached + if character = brackets.closing then 1 else 0 := by
  unfold step at taken
  grind [Quote.behind]

/-- Each level that the walk comes down was closed outside of quoted runs. -/
theorem of_walk? {text : Text}
    (walked : brackets.walk? limit quote depth text = some (next, reached))
    (fits : depth ≤ limit) :
    next = text.foldl Quote.behind quote ∧ reached ≤ limit ∧
      depth ≤ reached + (unquoted quote text).count brackets.closing := by
  induction text generalizing quote depth with
  | nil =>
      cases walked
      exact ⟨rfl, fits, by simp [unquoted]⟩
  | cons first text induction =>
      rw [walk?] at walked
      cases taken : brackets.step limit quote depth first with
      | none => simp [taken] at walked
      | some middle =>
          rw [taken] at walked
          rcases of_step taken fits with ⟨equal, stillFits, stays, bounded⟩
          rcases induction walked stillFits with ⟨same, fitsBehind, further⟩
          rw [equal] at same further
          refine ⟨same, fitsBehind, ?_⟩
          cases quote with
          | none =>
              rw [unquoted, List.count_cons]
              grind
          | some quote =>
              rw [unquoted, ← stays (by simp)]
              exact further

theorem exists_walk?_of_append {left right : Text} {last : Option Quote × Int}
    (walked : brackets.walk? limit quote depth (left ++ right) = some last) :
    ∃ middle, brackets.walk? limit quote depth left = some middle ∧
      brackets.walk? limit middle.1 middle.2 right = some last := by
  have front := isSome_walk?_of_append (Option.isSome_of_eq_some walked)
  rcases Option.isSome_iff_exists.mp front with ⟨middle, reached⟩
  exact ⟨middle, reached, walk?_append right reached ▸ walked⟩

end Brackets

/-! ## Arguments of functional pseudos -/

/-- How many parentheses are open at a place of a span. -/
def Zone.level (zone : Zone) : Int := if zone.parenthesized then 1 else 0

theorem argumentSpan_level_of_step {limit : Nat} {depth : Int} {zone next : Zone}
    {character : Char} {last : Option Quote × Int}
    (reached : argumentSpan.step zone character = some next)
    (taken : Brackets.round.step limit zone.quote (depth + zone.level) character = some last) :
    last = (next.quote, depth + next.level) := by
  rcases zone with ⟨parenthesized, quote⟩
  cases quote with
  | some quote =>
      cases reached
      cases taken
      rfl
  | none =>
      unfold Span.step at reached
      unfold Brackets.step at taken
      cases found : Quote.of? character with
      | some quote => grind [Zone.level]
      | none => cases parenthesized <;> grind [Zone.level, Zone.plain, argumentSpan, Brackets.round]

/-- The walk over an argument comes to the levels that are open in it. -/
theorem argumentSpan_level_of_walk? {limit : Nat} {depth : Int} {zone next : Zone} {text : Text}
    {last : Option Quote × Int} (reached : argumentSpan.after? zone text = some next)
    (walked : Brackets.round.walk? limit zone.quote (depth + zone.level) text = some last) :
    last = (next.quote, depth + next.level) := by
  induction text generalizing zone with
  | nil =>
      cases reached
      cases walked
      rfl
  | cons first text induction =>
      rw [Span.after?] at reached
      rw [Brackets.walk?] at walked
      cases stepped : argumentSpan.step zone first with
      | none => simp [stepped] at reached
      | some middle =>
          cases taken : Brackets.round.step limit zone.quote (depth + zone.level) first with
          | none => simp [taken] at walked
          | some further =>
              rw [stepped] at reached
              rw [taken, argumentSpan_level_of_step stepped taken] at walked
              exact induction reached walked

/-! ## The depth of negations -/

/-- The closing parentheses between the square brackets of an attribute selector, outside
of quoted runs. -/
def Simple.strayClosings (part : Simple) : Nat :=
  match part with
  | .attribute .. => (unquoted none part.render).count ')'
  | _ => 0

namespace Selector

mutual
/-- The most negations that a path into the selector passes. -/
def negationDepth : Selector → Nat
  | .simple _ | .foreign _ => 0
  | .negation argument => negationDepth argument + 1
  | .combine _ left right => max (negationDepth left) (negationDepth right)
  | .group members | .compound members => negationDepthIn members

def negationDepthIn : List Selector → Nat
  | [] => 0
  | member :: rest => max (negationDepth member) (negationDepthIn rest)
end

mutual
/-- The closing parentheses between square brackets anywhere in the selector. -/
def strayClosings : Selector → Nat
  | .simple part => part.strayClosings
  | .foreign _ => 0
  | .negation argument => strayClosings argument
  | .combine _ left right => strayClosings left + strayClosings right
  | .group members | .compound members => strayClosingsIn members

def strayClosingsIn : List Selector → Nat
  | [] => 0
  | member :: rest => strayClosings member + strayClosingsIn rest
end

/-! ## Walks over texts of selectors -/

/-- How a walk ends that passed over so many levels of negations and stray closing
parentheses. -/
structure Passed (limit levels stray : Nat) (depth : Int) (last : Option Quote × Int) : Prop where
  unquoted : last.1 = none
  fits : last.2 ≤ limit
  kept : depth ≤ last.2 + stray
  nested : depth + levels ≤ limit + stray

/-- Every walk that gets over the text had room for so many levels, apart from the levels
that stray closing parentheses gave back. -/
def Nests (limit : Nat) (text : Text) (levels stray : Nat) : Prop :=
  ∀ depth last, depth ≤ (limit : Int) → Brackets.round.walk? limit none depth text = some last →
    Passed limit levels stray depth last

section Walks

variable {limit : Nat} {text left right : Text} {levels more stray others : Nat}

theorem nests_of_skeleton (unstructured : skeleton text = []) : Nests limit text 0 0 := by
  intro depth last fits walked
  rw [← Brackets.walk?_skeleton (by decide), unstructured] at walked
  cases walked
  exact ⟨rfl, fits, by simp, by simpa using fits⟩

theorem Nests.append (first : Nests limit left levels stray)
    (second : Nests limit right more others) :
    Nests limit (left ++ right) (max levels more) (stray + others) := by
  intro depth last fits walked
  rcases Brackets.exists_walk?_of_append walked with ⟨⟨quote, reached⟩, before, behind⟩
  have passed := first depth (quote, reached) fits before
  cases passed.unquoted
  have further := second reached last passed.fits behind
  have kept := passed.kept
  have nested := passed.nested
  have keptBehind := further.kept
  have nestedBehind := further.nested
  refine ⟨further.unquoted, further.fits, ?_, ?_⟩
  · dsimp only at kept
    omega
  · dsimp only at kept
    omega

theorem Nests.parenthesize (inside : Nests limit text levels stray) :
    Nests limit (['('] ++ text ++ [')']) (levels + 1) stray := by
  intro depth last fits walked
  rw [List.append_assoc, List.singleton_append, Brackets.walk?] at walked
  by_cases exceeds : depth + 1 > limit
  · have refused : Brackets.round.step limit none depth '(' = none := by
      simp [Brackets.step, Quote.of?, Brackets.round, exceeds]
    simp [refused] at walked
  · have opened : Brackets.round.step limit none depth '(' = some (none, depth + 1) := by
      simp [Brackets.step, Quote.of?, Brackets.round, exceeds]
    rw [opened] at walked
    rcases Brackets.exists_walk?_of_append walked with ⟨⟨quote, reached⟩, before, behind⟩
    have passed := inside (depth + 1) (quote, reached) (by omega) before
    cases passed.unquoted
    have closed : Brackets.round.walk? limit none reached [')'] = some (none, reached - 1) := by
      simp [Brackets.walk?, Brackets.step, Quote.of?, Brackets.round]
    rw [closed] at behind
    cases behind
    have stillFits := passed.fits
    have kept := passed.kept
    have nested := passed.nested
    dsimp only at stillFits kept
    exact ⟨rfl, by dsimp only; omega, by dsimp only; omega, by omega⟩

theorem nests_of_bracketSpan {body : Text} (whole : bracketSpan.Whole body) :
    Nests limit ('[' :: body ++ [']']) 0 ((unquoted none ('[' :: body ++ [']'])).count ')') := by
  -- An opening parenthesis in there only takes room away, so no partner is looked for.
  intro depth last fits walked
  rcases Brackets.of_walk? walked fits with ⟨equal, stillFits, kept⟩
  have closed : body.foldl Quote.behind none = none := (Span.quote_of_after? whole).symm
  refine ⟨?_, stillFits, kept, by omega⟩
  rw [equal, List.cons_append, List.foldl_cons, List.foldl_append]
  exact congrArg (Quote.behind · ']') closed

theorem nests_of_argumentSpan {argument : Text} (whole : argumentSpan.Whole argument) :
    Nests limit argument 0 0 := by
  intro depth last fits walked
  have walked : Brackets.round.walk? limit Zone.plain.quote (depth + Zone.plain.level) argument =
      some last := by simpa [Zone.plain, Zone.level] using walked
  rw [argumentSpan_level_of_walk? whole walked]
  exact ⟨rfl, by simpa [Zone.plain, Zone.level] using fits, by simp [Zone.plain, Zone.level],
    by simpa using fits⟩

theorem Nests.fewer (nests : Nests limit text levels stray) (le : more ≤ levels) :
    Nests limit text more stray := by
  intro depth last fits walked
  have passed := nests depth last fits walked
  have nested := passed.nested
  exact ⟨passed.unquoted, passed.fits, passed.kept, by omega⟩

theorem skeleton_of_colons {separator : Text} (colons : IsColons separator) :
    skeleton separator = [] := by
  rcases colons with rfl | rfl
  · rfl
  · rfl

theorem nests_of_written {part : Simple} (written : part.Written) :
    Nests limit part.render 0 part.strayClosings := by
  cases written with
  | any => exact nests_of_skeleton rfl
  | type form =>
      exact nests_of_skeleton (skeleton_name (form.continues fun _ => continuesName_of_startsName))
  | @className hyphen name hyphens form =>
      have continues := form.continues fun _ => continuesName_of_startsName
      have dotted : skeleton ('.' :: hyphen) = [] := by
        rcases hyphens with rfl | rfl
        · rfl
        · rfl
      apply nests_of_skeleton
      change skeleton ('.' :: hyphen ++ name) = []
      rw [skeleton_append, dotted, skeleton_name continues]
      rfl
  | id form =>
      apply nests_of_skeleton
      exact (skeleton_cons_of_not _ rfl).trans (skeleton_name (form.continues fun _ => id))
  | bareBrackets _ whole => exact nests_of_bracketSpan whole
  | brackets _ _ _ whole => exact nests_of_bracketSpan whole
  | pseudo colons form =>
      apply nests_of_skeleton
      rw [Simple.render, skeleton_append, skeleton_of_colons colons,
        skeleton_name (form.continues fun _ => continuesName_of_startsPseudo)]
      rfl
  | @function separator name argument colons form _ _ whole =>
      have named : skeleton (separator ++ name) = [] := by
        rw [skeleton_append, skeleton_of_colons colons,
          skeleton_name (form.continues fun _ => continuesName_of_startsPseudo)]
        rfl
      have argued : Nests limit argument 0 0 := nests_of_argumentSpan whole
      have called := (nests_of_skeleton named).append argued.parenthesize
      have equal : separator ++ name ++ (['('] ++ argument ++ [')']) =
          (Simple.function separator name argument).render := by simp [Simple.render]
      rw [equal] at called
      exact called.fewer (Nat.zero_le _)

theorem nests_flatMap {members : List Selector} {separator : Text}
    (unstructural : skeleton separator = [])
    (each : ∀ member ∈ members, Nests limit member.render member.negationDepth
      member.strayClosings) :
    Nests limit ((renderAll members).flatMap (separator ++ ·)) (negationDepthIn members)
      (strayClosingsIn members) := by
  induction members with
  | nil => exact nests_of_skeleton rfl
  | cons member rest induction =>
      have first := (nests_of_skeleton unstructural).append (each member List.mem_cons_self)
      rw [Nat.zero_max, Nat.zero_add] at first
      exact first.append (induction fun other inside => each other (List.mem_cons_of_mem _ inside))

end Walks

/-- A walk that gets over the text of a selector had room for its negations. -/
theorem Formed.nests {rank : Rank} {selector : Selector} {limit : Nat}
    (formed : Formed rank selector) :
    Nests limit selector.render selector.negationDepth selector.strayClosings := by
  induction formed with
  | simple written => exact nests_of_written written
  | @negation argument _ inside =>
      have word : Nests limit ":not" 0 0 := nests_of_skeleton (by decide)
      have whole := word.append inside.parenthesize
      rw [Nat.zero_max, Nat.zero_add] at whole
      exact whole
  | lone _ member => exact member
  | @compound members _ _ _ each =>
      rw [render_compound, ← List.flatMap_id']
      exact nests_flatMap skeleton_nil each
  | head _ compound => exact compound
  | @combine combinator left right _ _ leftNests rightNests =>
      have sign : Nests limit combinator.join 0 0 :=
        nests_of_skeleton (by cases combinator <;> decide)
      have whole := (leftNests.append sign).append rightNests
      rw [Nat.max_zero, Nat.add_zero] at whole
      exact whole
  | single _ chain => exact chain
  | @group members several _ each =>
      cases members with
      | nil => simp at several
      | cons member rest =>
          rw [render_group, renderAll_cons, join_cons]
          have comma : skeleton (", " : Text) = [] := by decide
          have others := nests_flatMap comma fun other inside =>
            each other (List.mem_cons_of_mem _ inside)
          exact (each member List.mem_cons_self).append others

/-- The negations of a selector that was read nest no deeper than the limit, apart from
one level for each closing parenthesis between square brackets. -/
theorem negationDepth_le_of_read {config : Config} {text : Text} {selector : Selector}
    (settled : Brackets.round.Settled (clean text))
    (read : Selector.read config text = .ok selector) :
    selector.negationDepth ≤ config.maxDepth + selector.strayClosings := by
  rcases formed_of_ofClean read with ⟨formed, sameSkeleton, checked⟩
  have marks : Brackets.round.Ordinary '/' ∧ Brackets.round.Ordinary '*' := by decide
  rcases (settled.overflow?_iff marks 0).mp (Brackets.check_eq_ok_iff_overflow?.mp checked) with
    ⟨reached, walked⟩
  rw [← Brackets.walk?_skeleton (by decide), sameSkeleton,
    Brackets.walk?_skeleton (by decide)] at walked
  have nested := (formed.nests 0 _ (by omega) walked).nested
  omega

/-- A comment is taken out and a quoted run is passed over before a closing parenthesis
between square brackets gives a level back. -/
theorem negationDepth_le_of_read_behind_quotes :
    ∃ selector : Selector,
      Selector.read { maxDepth := 2 } "a:not(/* ( */[b=')'][c=)]:not(:not(d)))" = .ok selector ∧
        selector.negationDepth ≤ 2 + selector.strayClosings ∧ selector.strayClosings = 1 := by
  have settled : Brackets.round.Settled (clean "a:not(/* ( */[b=')'][c=)]:not(:not(d)))") := by
    decide +kernel
  have read : Selector.read { maxDepth := 2 } "a:not(/* ( */[b=')'][c=)]:not(:not(d)))" =
      .ok (.compound [.simple (.type "a"), .negation (.compound [
        .simple (.attribute "b" (some "=") (some "')'")),
        .simple (.attribute "c" (some "=") (some ")")),
        .negation (.negation (.simple (.type "d")))])]) := by
    decide +kernel
  exact ⟨_, read, negationDepth_le_of_read settled read, by decide⟩

/-- Negations nest deeper than the limit behind a closing parenthesis between square
brackets, and behind the start of a comment that is never closed. -/
theorem exists_negationDepth_gt :
    (∃ selector : Selector,
      Selector.read { maxDepth := 1 } "[a=)]:not(:not(b))" = .ok selector ∧
        1 < selector.negationDepth) ∧
    ∃ selector : Selector,
      Selector.read { maxDepth := 1 } ":x(/*):not(:not(a))" = .ok selector ∧
        1 < selector.negationDepth ∧ selector.strayClosings = 0 := by
  have stray : Selector.read { maxDepth := 1 } "[a=)]:not(:not(b))" =
      .ok (.compound [.simple (.attribute "a" (some "=") (some ")")),
        .negation (.negation (.simple (.type "b")))]) := by
    decide +kernel
  have unclosed : Selector.read { maxDepth := 1 } ":x(/*):not(:not(a))" =
      .ok (.compound [.simple (.function ":" "x" "/*"),
        .negation (.negation (.simple (.type "a")))]) := by
    decide +kernel
  exact ⟨⟨_, stray, by decide⟩, _, unclosed, by decide, by decide⟩

end Selector

end ScopedMarkup.Css
