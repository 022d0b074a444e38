import ScopedMarkup.Proofs.Css.Sheet.Terminal

/-! # How deep the blocks of a sheet nest

The check of blocks walks over the text of a sheet. Only braces lead it to another
depth, and over a printed rule it goes no deeper than the rule has levels.
-/

namespace ScopedMarkup.Css

/-! ## The walk over raw text -/

/-- The check of blocks passes over raw text like its own quotes. -/
theorem walk?_of_after? {limit : Nat} {depth : Int} {zone next : Zone} {text : Text}
    (reached : rawSpan.after? zone text = some next) :
    Brackets.curly.walk? limit zone.quote depth text = some (next.quote, depth) := by
  induction text generalizing zone with
  | nil =>
      cases reached
      rfl
  | cons first rest induction =>
      rw [Span.after?] at reached
      cases stepped : rawSpan.step zone first with
      | none => simp [stepped] at reached
      | some middle =>
          rw [stepped] at reached
          have taken : Brackets.curly.step limit zone.quote depth first =
              some (middle.quote, depth) := by
            rcases zone with ⟨parenthesized, quote⟩
            cases quote with
            | some quote =>
                cases stepped
                rfl
            | none =>
                cases found : Quote.of? first with
                | some quote =>
                    simp only [Span.step, found, Option.some.injEq] at stepped
                    rw [← stepped]
                    simp [Brackets.step, found]
                | none =>
                    have braces : first ≠ '{' ∧ first ≠ '}' ∧ middle.quote = none := by
                      cases parenthesized <;>
                        simp only [Span.step, found, rawSpan] at stepped <;> grind [Zone.plain]
                    simp [Brackets.step, found, Brackets.curly, braces]
          rw [Brackets.walk?_cons taken]
          exact induction reached

theorem walk?_of_whole {limit : Nat} {depth : Int} {text : Text} (whole : rawSpan.Whole text) :
    Brackets.curly.walk? limit none depth text = some (none, depth) :=
  walk?_of_after? whole

/-- Text without structure is a step of the walk that changes nothing. -/
theorem walk?_of_skeleton {limit : Nat} {depth : Int} {text : Text}
    (unstructured : skeleton text = []) :
    Brackets.curly.walk? limit none depth text = some (none, depth) :=
  walk?_of_whole ((rawSpan_whole_iff unstructured).mpr Span.whole_nil)

namespace Sheet

/-! ## What is known of a piece -/

theorem skeleton_of_isProperty {text : Text} (form : IsProperty text) : skeleton text = [] := by
  rcases form with ⟨hyphens, name, rfl, hyphenated, form⟩
  have continues := form.continues fun _ => continuesName_of_startsName
  rw [skeleton_append, skeleton_name continues]
  rcases hyphenated with rfl | rfl | rfl <;> rfl

theorem isStructural_eq_false_of_isLower {character : Char} (lower : character.isLower = true) :
    isStructural character = false := by
  cases structural : isStructural character with
  | false => rfl
  | true =>
      rcases eq_of_isStructural structural with rfl | rfl | rfl | rfl | rfl | rfl | rfl <;>
        exact absurd lower (by decide)

theorem skeleton_of_isKeyframesKeyword {text : Text} (form : IsKeyframesKeyword text) :
    skeleton text = [] := by
  rcases form with ⟨vendor, rfl, rfl | ⟨first, others, rfl, lower, further⟩⟩
  · rfl
  · refine skeleton_eq_nil fun character member => ?_
    simp only [List.mem_cons, List.mem_append, List.not_mem_nil, or_false] at member
    rcases member with rfl | (rfl | rfl | member | rfl) | member
    · decide
    · decide
    · exact isStructural_eq_false_of_isLower lower
    · exact isStructural_eq_false_of_isLower (further character member)
    · decide
    · have letters : (("keyframes" : Text).all fun letter => !isStructural letter) = true := by
        decide
      simpa using List.all_eq_true.mp letters character member

theorem whole_of_isString {text : Text} (form : IsString text) : rawSpan.Whole text := by
  rcases form with ⟨quote, body, rfl, absent⟩
  exact Span.after?_quoted rawSpan false absent

/-- Only braces lead the walk to another depth. -/
theorem walk?_of_recognises {limit : Nat} {depth : Int} {terminal : Terminal} {piece : Text}
    (recognises : terminal.Recognises piece)
    (unbraced : terminal ≠ .openBrace ∧ terminal ≠ .closeBrace) :
    Brackets.curly.walk? limit none depth piece = some (none, depth) := by
  match terminal, recognises with
  | .prelude, recognises | .value, recognises => exact walk?_of_whole recognises.2
  | .keyframesKeyword, recognises =>
      exact walk?_of_skeleton (skeleton_of_isKeyframesKeyword recognises)
  | .property, recognises => exact walk?_of_skeleton (skeleton_of_isProperty recognises)
  | .string, recognises => exact walk?_of_whole (whole_of_isString recognises)
  | .documentKeyword, recognises =>
      rcases recognises with rfl | rfl
      · exact walk?_of_skeleton (by decide)
      · exact walk?_of_skeleton (by decide)
  | .nameSpaceKeyword, rfl | .fontFaceKeyword, rfl | .supportsKeyword, rfl | .charsetKeyword, rfl
  | .mediaKeyword, rfl | .pageKeyword, rfl | .colon, rfl =>
      exact walk?_of_skeleton (by decide)
  | .semicolon, rfl => rfl
  | .openBrace, _ => exact absurd rfl unbraced.1
  | .closeBrace, _ => exact absurd rfl unbraced.2

/-! ## Printed sheets -/

theorem space_deeper {indent : Text} (space : Space indent) : Space (deeper indent) :=
  space.append rfl

/-- The walk comes back to its depth over the text. -/
def Passes (limit : Nat) (depth : Nat) (text : Text) : Prop :=
  Brackets.curly.walk? limit none depth text = some (none, ↑depth)

section Printed

variable {limit depth : Nat} {indent : Text}

theorem Passes.append {left right : Text} (first : Passes limit depth left)
    (second : Passes limit depth right) : Passes limit depth (left ++ right) := by
  rw [Passes, Brackets.walk?_append right first, second]

theorem passes_space {space : Text} (gap : Space space) : Passes limit depth space :=
  walk?_of_skeleton (skeleton_blank gap.blank)

theorem passes_flatMap {α : Type} {items : List α} {render : α → Text}
    (each : ∀ item ∈ items, Passes limit depth (render item)) :
    Passes limit depth (items.flatMap render) := by
  induction items with
  | nil => rfl
  | cons item items induction =>
      rw [List.flatMap_cons]
      exact (each item List.mem_cons_self).append
        (induction fun other member => each other (List.mem_cons_of_mem _ member))

theorem passes_declaration {declaration : Declaration} (space : Space indent)
    (written : declaration.Written) : Passes limit depth (declaration.render indent) := by
  have name : Passes limit depth declaration.name :=
    walk?_of_skeleton (skeleton_of_isProperty written.name)
  have colon : Passes limit depth ": " := walk?_of_skeleton (by decide)
  have value : Passes limit depth declaration.value := walk?_of_whole written.value.whole
  have semicolon : Passes limit depth ";\n" := rfl
  have named : Passes limit depth (deeper indent ++ declaration.name) :=
    (passes_space (space_deeper space)).append name
  exact ((named.append colon).append value).append semicolon

/-- A block passes where its lines do one level deeper. -/
theorem passes_block {head lines : Text} (space : Space indent) (fits : depth + 1 ≤ limit)
    (headPasses : Passes limit depth head) (linesPass : Passes limit (depth + 1) lines) :
    Passes limit depth (block indent head lines) := by
  have opens : Brackets.curly.walk? limit none depth [' ', '{', '\n'] =
      some (none, ((depth + 1 : Nat) : Int)) := by
    have shallow : ¬ (depth : Int) + 1 > limit := by omega
    simp [Brackets.walk?, Brackets.step, Quote.of?, Brackets.curly, shallow]
  have closes : Brackets.curly.walk? limit none ((depth + 1 : Nat) : Int) ['}', '\n'] =
      some (none, (depth : Int)) := by
    simp [Brackets.walk?, Brackets.step, Quote.of?, Brackets.curly]
  have before : Passes limit depth (indent ++ head) := (passes_space space).append headPasses
  have inner : Passes limit (depth + 1) (lines ++ indent) := linesPass.append (passes_space space)
  have equal : block indent head lines =
      indent ++ head ++ ([' ', '{', '\n'] ++ (lines ++ indent ++ ['}', '\n'])) := by
    simp [block]
  rw [Passes, equal, Brackets.walk?_append _ before, Brackets.walk?_append _ opens,
    Brackets.walk?_append _ inner, closes]

theorem passes_declarationBlock {head : Text} {declarations : List Declaration}
    (space : Space indent) (fits : depth + 1 ≤ limit) (headPasses : Passes limit depth head)
    (written : ∀ declaration ∈ declarations, declaration.Written) :
    Passes limit depth (declarationBlock indent head declarations) :=
  passes_block space fits headPasses
    (passes_flatMap fun declaration member => passes_declaration space (written declaration member))

theorem passes_keyword {clause : Conditional} (written : clause.Written) :
    Passes limit depth clause.keyword := by
  cases clause with
  | media | supports => exact walk?_of_skeleton (by decide)
  | document keyword =>
      rcases written with rfl | rfl
      · exact walk?_of_skeleton (by decide)
      · exact walk?_of_skeleton (by decide)

theorem passes_pageHead {selector : Text} (form : selector = [] ∨ IsPrelude selector) :
    Passes limit depth (pageHead selector) := by
  rcases form with rfl | form
  · exact walk?_of_skeleton (by decide)
  · have keyword : Passes limit depth "@page " := walk?_of_skeleton (by decide)
    rw [pageHead, if_neg form.begins.ne_nil]
    exact keyword.append (walk?_of_whole form.whole)

theorem passes_line {keyword value : Text} (space : Space indent)
    (keywordPasses : Passes limit depth keyword) (whole : rawSpan.Whole value) :
    Passes limit depth (indent ++ keyword ++ value ++ ";\n") := by
  have ends : Passes limit depth ";\n" := rfl
  have valuePasses : Passes limit depth value := walk?_of_whole whole
  exact (((passes_space space).append keywordPasses).append valuePasses).append ends

variable {σ : Type} {good : σ → Prop} {prelude : σ → Text}

mutual
/-- A printed rule nests no deeper than the levels that it is formed for. -/
theorem passes_render (form : ∀ style, good style → IsPrelude (prelude style)) :
    ∀ {levels depth : Nat} {indent : Text} {rule : Rule σ}, Rule.Formed good levels rule →
      Space indent → depth + levels ≤ limit → Passes limit depth (rule.render prelude indent)
  | _, _, _, .charset _, formed, space, _ =>
      passes_line space (walk?_of_skeleton (by decide)) (whole_of_isString formed)
  | _, _, _, .nameSpace _, formed, space, _ =>
      passes_line space (walk?_of_skeleton (by decide)) formed.whole
  | _, _, _, .fontFace _, formed, space, fits =>
      passes_declarationBlock space (Nat.le_trans (Nat.add_le_add_left formed.1 _) fits)
        (walk?_of_skeleton (by decide)) formed.2
  | _, _, _, .page _ _, formed, space, fits =>
      passes_declarationBlock space (Nat.le_trans (Nat.add_le_add_left formed.1 _) fits)
        (passes_pageHead formed.2.1) formed.2.2
  | levels, depth, indent, .keyframes keyword name frames, formed, space, fits => by
      rcases formed with ⟨positive, vendored, isPrelude, written⟩
      have keyword : Passes limit depth keyword :=
        walk?_of_skeleton (skeleton_of_isKeyframesKeyword vendored)
      have blank : Passes limit depth [' '] := passes_space rfl
      have name : Passes limit depth name := walk?_of_whole isPrelude.whole
      rw [Rule.render]
      refine passes_block space (by omega) ((keyword.append blank).append name) ?_
      refine passes_flatMap fun frame member => ?_
      rcases written frame member with ⟨deep, key, declarations⟩
      exact passes_declarationBlock (space_deeper space) (by omega) (walk?_of_whole key.whole)
        declarations
  | levels, depth, indent, .conditional clause condition rules, formed, space, fits => by
      rcases formed with ⟨positive, written, isPrelude, inner⟩
      have blank : Passes limit depth [' '] := passes_space rfl
      have condition : Passes limit depth condition := walk?_of_whole isPrelude.whole
      rw [Rule.render]
      refine passes_block space (by omega)
        (((passes_keyword written).append blank).append condition) ?_
      exact passes_renderAll form inner (space_deeper space) (by omega)
  | _, _, _, .style style _, formed, space, fits =>
      passes_declarationBlock space (Nat.le_trans (Nat.add_le_add_left formed.1 _) fits)
        (walk?_of_whole (form style formed.2.1).whole) formed.2.2
  | _, _, _, .foreign _, formed, _, _ => formed.elim

theorem passes_renderAll (form : ∀ style, good style → IsPrelude (prelude style)) :
    ∀ {levels depth : Nat} {indent : Text} {rules : List (Rule σ)},
      Rule.AllFormed good levels rules → Space indent → depth + levels ≤ limit →
        Passes limit depth (Rule.renderAll prelude indent rules)
  | _, _, _, [], _, _, _ => rfl
  | _, _, _, _ :: _, formed, space, fits =>
      (passes_render form formed.1 space fits).append (passes_renderAll form formed.2 space fits)
end

end Printed

end Sheet

end ScopedMarkup.Css
