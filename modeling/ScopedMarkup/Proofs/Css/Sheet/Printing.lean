import ScopedMarkup.Proofs.Css.Sheet.Nesting
import ScopedMarkup.Proofs.Css.Sheet.Recognition

/-! # Reading what was printed

Each part of a printed sheet, whatever stands around it, is read as the part that
it was printed from.
-/

namespace ScopedMarkup.Css.Sheet

/-! ## Where raw text ends -/

theorem ends_openBrace (rest : Text) : rawSpan.Ends ('{' :: rest) :=
  ⟨'{', rest, rfl, rfl, by decide, by decide⟩

theorem ends_semicolon (rest : Text) : rawSpan.Ends (';' :: rest) :=
  ⟨';', rest, rfl, rfl, by decide, by decide⟩

theorem space_blank : Space [' '] := rfl

theorem space_newline : Space ['\n'] := rfl

section Reading

variable {source indent rest : Text} {awaited : Awaited} {around : List (Head × Body)}
  {inside inner : Body} {rules : List (Rule Lexeme)}

/-! ## Declarations and blocks -/

theorem reads_declaration {declaration : Declaration} (space : Space indent)
    (written : declaration.Written)
    (reads : Reads source .declaration around (inside.addDeclaration declaration) rest rules) :
    Reads source .declaration around inside (declaration.render indent ++ rest) rules := by
  have behind : Reads source .declarationEnd around (inside.addDeclaration declaration)
      (';' :: (['\n'] ++ rest)) rules := Reads.semicolon rfl (reads.gap space_newline)
  have value := (Reads.value written.value (ends_semicolon _) behind).gap space_blank
  have leaves : Text.Leaves continuesName (':' :: ([' '] ++ (declaration.value ++
      (';' :: (['\n'] ++ rest))))) := Text.leaves_cons.mpr (by decide)
  have named := (Reads.property written.name leaves value.colon).gap (space_deeper space)
  have equal : declaration.render indent ++ rest = deeper indent ++ (declaration.name ++
      (':' :: ([' '] ++ (declaration.value ++ (';' :: (['\n'] ++ rest)))))) := by
    simp [Declaration.render]
  rwa [equal]

theorem reads_declarations {declarations : List Declaration} (space : Space indent)
    (written : ∀ declaration ∈ declarations, declaration.Written)
    (reads : Reads source .declaration around
      ⟨inside.rules, inside.frames, inside.declarations ++ declarations⟩ rest rules) :
    Reads source .declaration around inside
      (declarations.flatMap (Declaration.render indent) ++ rest) rules := by
  induction declarations generalizing inside with
  | nil => simpa using reads
  | cons declaration declarations induction =>
      rw [List.flatMap_cons, List.append_assoc]
      refine reads_declaration space (written _ List.mem_cons_self) ?_
      refine induction (fun other member => written other (List.mem_cons_of_mem _ member)) ?_
      simpa [Body.addDeclaration] using reads

/-- A printed block from its opening brace on. -/
def braced (indent lines rest : Text) : Text :=
  '{' :: (['\n'] ++ (lines ++ (indent ++ '}' :: (['\n'] ++ rest))))

/-- A block is read if its lines are. -/
theorem reads_block {head : Head} {lines : Text} (space : Space indent)
    (moved : awaited.move? .openBrace = some fun _ => .enter head)
    (within : Reads source head.inside ((head, inside) :: around) inner
        (indent ++ '}' :: (['\n'] ++ rest)) rules →
      Reads source head.inside ((head, inside) :: around) .empty
        (lines ++ (indent ++ '}' :: (['\n'] ++ rest))) rules)
    (reads : Reads source (Progress.resumed around) around (inside.addBlock head inner) rest
      rules) :
    Reads source awaited around inside
      (braced indent lines rest) rules := by
  have leaves : head.inside.move? .closeBrace = some fun _ => .leave := by cases head <;> rfl
  have closed := (Reads.closeBrace leaves (reads.gap space_newline)).gap space
  exact Reads.openBrace moved ((within closed).gap space_newline)

theorem reads_declarationBlock {head : Head} {declarations : List Declaration}
    (space : Space indent) (moved : awaited.move? .openBrace = some fun _ => .enter head)
    (plain : head.inside = .declaration)
    (written : ∀ declaration ∈ declarations, declaration.Written)
    (reads : Reads source (Progress.resumed around) around
      (inside.addBlock head ⟨[], [], declarations⟩) rest rules) :
    Reads source awaited around inside
      (braced indent (declarations.flatMap (Declaration.render indent)) rest) rules := by
  refine reads_block space moved ?_ reads
  rw [plain]
  intro behind
  refine reads_declarations space written ?_
  exact behind

theorem block_append (indent head lines rest : Text) :
    block indent head lines ++ rest =
      indent ++ (head ++ [' '] ++ braced indent lines rest) := by
  simp [block, braced]

theorem head_infix_block (indent head lines : Text) :
    head ++ [' '] <:+: block indent head lines :=
  ⟨indent, ['{', '\n'] ++ lines ++ indent ++ ['}', '\n'], by simp [block]⟩

theorem lines_infix_block (indent head lines : Text) : lines <:+: block indent head lines :=
  ⟨indent ++ head ++ [' ', '{', '\n'], indent ++ ['}', '\n'], by simp [block]⟩

/-- The head of a block whose prelude is kept without the blanks around it. -/
theorem reads_head {name text : Text} {head : Text → Head}
    (moved : awaited.move? .prelude = some fun piece => .await (.block (head (clean piece.text))))
    (form : IsPrelude name)
    (reads : Reads source (.block (head name)) around inside ('{' :: text) rules) :
    Reads source awaited around inside (name ++ [' '] ++ '{' :: text) rules := by
  refine Reads.prelude moved form space_blank.blank (ends_openBrace _) ?_ reads
  intro uncommented _
  rw [clean_prelude form space_blank.blank uncommented]
  rfl

theorem reads_keyframe {frame : Keyframe} (space : Space indent) (written : frame.Written)
    (resumes : Progress.resumed around = .frame)
    (reads : Reads source .frame around (inside.addFrame frame) rest rules) :
    Reads source .frame around inside (frame.render indent ++ rest) rules := by
  rw [Keyframe.render, declarationBlock, block_append]
  rw [← resumes] at reads
  have behind : Reads source (.block (.keyframe frame.key)) around inside _ rules :=
    reads_declarationBlock space rfl rfl written.declarations reads
  exact (reads_head rfl written.key behind).gap space

theorem reads_keyframes {frames : List Keyframe} (space : Space indent)
    (written : ∀ frame ∈ frames, frame.Written) (resumes : Progress.resumed around = .frame)
    (reads : Reads source .frame around
      ⟨inside.rules, inside.frames ++ frames, inside.declarations⟩ rest rules) :
    Reads source .frame around inside (frames.flatMap (Keyframe.render indent) ++ rest) rules := by
  induction frames generalizing inside with
  | nil => simpa using reads
  | cons frame frames induction =>
      rw [List.flatMap_cons, List.append_assoc]
      refine reads_keyframe space (written _ List.mem_cons_self) resumes ?_
      refine induction (fun other member => written other (List.mem_cons_of_mem _ member)) ?_
      simpa [Body.addFrame] using reads

/-! ## Rules -/

theorem reads_charset {value : Text} (space : Space indent) (form : IsString value)
    (reads : Reads source .rule around (inside.addRule (.charset value)) rest rules) :
    Reads source .rule around inside (indent ++ "@charset " ++ value ++ ";\n" ++ rest) rules := by
  have behind : Reads source .ruleEnd around (inside.addRule (.charset value))
      (';' :: (['\n'] ++ rest)) rules := Reads.semicolon rfl (reads.gap space_newline)
  have valued := (Reads.string form behind).gap space_blank
  have keyword : Terminal.charsetKeyword ∈ Terminal.keywords := by decide
  have named := (Reads.keyword keyword rfl rfl (fun _ => rfl) valued).gap space
  simpa using named

theorem reads_nameSpace {value : Text} (space : Space indent) (form : IsPrelude value)
    (reads : Reads source .rule around (inside.addRule (.nameSpace value)) rest rules) :
    Reads source .rule around inside (indent ++ "@namespace " ++ value ++ ";\n" ++ rest)
      rules := by
  have behind : Reads source .ruleEnd around (inside.addRule (.nameSpace value))
      (';' :: (['\n'] ++ rest)) rules := Reads.semicolon rfl (reads.gap space_newline)
  have valued : Reads source .nameSpaceValue around inside
      ([' '] ++ (value ++ [] ++ (';' :: (['\n'] ++ rest)))) rules := by
    refine (Reads.prelude rfl form Text.blank_nil (ends_semicolon _) ?_ behind).gap space_blank
    intro uncommented _
    rw [clean_prelude form Text.blank_nil uncommented]
    rfl
  have keyword : Terminal.nameSpaceKeyword ∈ Terminal.keywords := by decide
  have named := (Reads.keyword keyword rfl rfl (fun _ => rfl) valued).gap space
  simpa using named

theorem reads_fontFace {declarations : List Declaration} (space : Space indent)
    (resumes : Progress.resumed around = .rule)
    (written : ∀ declaration ∈ declarations, declaration.Written)
    (reads : Reads source .rule around (inside.addRule (.fontFace declarations)) rest rules) :
    Reads source .rule around inside
      (declarationBlock indent "@font-face" declarations ++ rest) rules := by
  rw [declarationBlock, block_append, List.append_assoc ("@font-face" : Text)]
  rw [← resumes] at reads
  have behind : Reads source (.block .fontFace) around inside _ rules :=
    reads_declarationBlock space rfl rfl written reads
  have keyword : Terminal.fontFaceKeyword ∈ Terminal.keywords := by decide
  exact (Reads.keyword keyword rfl rfl (fun _ => rfl) (behind.gap space_blank)).gap space

theorem reads_page {selector : Text} {declarations : List Declaration} (space : Space indent)
    (resumes : Progress.resumed around = .rule) (form : selector = [] ∨ IsPrelude selector)
    (written : ∀ declaration ∈ declarations, declaration.Written)
    (reads : Reads source .rule around (inside.addRule (.page selector declarations)) rest
      rules) :
    Reads source .rule around inside
      (declarationBlock indent (pageHead selector) declarations ++ rest) rules := by
  rw [declarationBlock, block_append]
  rw [← resumes] at reads
  have keyword : Terminal.pageKeyword ∈ Terminal.keywords := by decide
  rcases form with rfl | form
  · have behind : Reads source .pageSelector around inside _ rules :=
      reads_declarationBlock space rfl rfl written reads
    have named := (Reads.keyword keyword rfl rfl (fun _ => rfl) (behind.gap space_blank)).gap space
    simpa [pageHead] using named
  · have behind : Reads source (.block (.page selector)) around inside _ rules :=
      reads_declarationBlock space rfl rfl written reads
    have selected : Reads source .pageSelector around inside
        (selector ++ [' '] ++ braced indent _ rest) rules :=
      reads_head rfl form behind
    have named :=
      (Reads.keyword keyword rfl rfl (fun _ => rfl) (selected.gap space_blank)).gap space
    simpa [pageHead, form.begins.ne_nil] using named

theorem reads_keyframesRule {keyword name : Text} {frames : List Keyframe} (space : Space indent)
    (resumes : Progress.resumed around = .rule) (vendored : IsKeyframesKeyword keyword)
    (form : IsPrelude name) (written : ∀ frame ∈ frames, frame.Written)
    (reads : Reads source .rule around (inside.addRule (.keyframes keyword name frames)) rest
      rules) :
    Reads source .rule around inside
      (block indent (keyword ++ [' '] ++ name)
        (frames.flatMap (Keyframe.render (deeper indent))) ++ rest) rules := by
  rw [block_append]
  rw [← resumes] at reads
  have behind : Reads source (.block (.keyframes keyword name)) around inside
      (braced indent (frames.flatMap (Keyframe.render (deeper indent))) rest) rules := by
    have closed : Reads source (Progress.resumed around) around
        (inside.addBlock (.keyframes keyword name) ⟨[], frames, []⟩) rest rules := reads
    refine reads_block space rfl ?_ closed
    intro behind
    refine reads_keyframes (space_deeper space) written rfl ?_
    exact behind
  have selected : Reads source (.keyframesName keyword) around inside
      (name ++ [' '] ++ braced indent _ rest) rules := reads_head rfl form behind
  have member : Terminal.keyframesKeyword ∈ Terminal.keywords := by decide
  have named :=
    (Reads.keyword member vendored rfl (fun _ => rfl) (selected.gap space_blank)).gap space
  simpa using named

theorem reads_condition {clause : Conditional} {text : Text} (written : clause.Written)
    (reads : Reads source (.condition clause) around inside text rules) :
    Reads source .rule around inside (clause.keyword ++ text) rules := by
  cases clause with
  | media =>
      have member : Terminal.mediaKeyword ∈ Terminal.keywords := by decide
      exact Reads.keyword member rfl rfl (fun _ => rfl) reads
  | supports =>
      have member : Terminal.supportsKeyword ∈ Terminal.keywords := by decide
      exact Reads.keyword member rfl rfl (fun _ => rfl) reads
  | document keyword =>
      have member : Terminal.documentKeyword ∈ Terminal.keywords := by decide
      exact Reads.keyword member written rfl (fun _ => rfl) reads

theorem reads_conditional {clause : Conditional} {condition lines : Text}
    {raws : List (Rule Lexeme)} (space : Space indent) (resumes : Progress.resumed around = .rule)
    (written : clause.Written) (form : IsPrelude condition)
    (within : Reads source .rule ((.conditional clause condition, inside) :: around) ⟨raws, [], []⟩
        (indent ++ '}' :: (['\n'] ++ rest)) rules →
      Reads source .rule ((.conditional clause condition, inside) :: around) .empty
        (lines ++ (indent ++ '}' :: (['\n'] ++ rest))) rules)
    (reads : Reads source .rule around (inside.addRule (.conditional clause condition raws)) rest
      rules) :
    Reads source .rule around inside
      (block indent (clause.keyword ++ [' '] ++ condition) lines ++ rest) rules := by
  rw [block_append]
  rw [← resumes] at reads
  have closed : Reads source (Progress.resumed around) around
      (inside.addBlock (.conditional clause condition) ⟨raws, [], []⟩) rest rules := reads
  have behind : Reads source (.block (.conditional clause condition)) around inside
      (braced indent lines rest) rules := reads_block space rfl within closed
  have selected : Reads source (.condition clause) around inside
      (condition ++ [' '] ++ braced indent lines rest) rules := reads_head rfl form behind
  have named := (reads_condition written (selected.gap space_blank)).gap space
  simpa using named

/-- The prelude of a style rule is kept with the blank behind it. -/
theorem reads_style {prelude : Text} {declarations : List Declaration} (space : Space indent)
    (resumes : Progress.resumed around = .rule) (form : IsPrelude prelude)
    (written : ∀ declaration ∈ declarations, declaration.Written)
    (reads : Reads source .rule around (inside.addRule (.style ⟨prelude ++ [' '], source.length -
      (prelude ++ [' '] ++ braced indent (declarations.flatMap (Declaration.render indent))
        rest).length⟩ declarations)) rest rules) :
    Reads source .rule around inside (declarationBlock indent prelude declarations ++ rest)
      rules := by
  rw [declarationBlock, block_append]
  rw [← resumes] at reads
  have behind : Reads source (.block (.style ⟨prelude ++ [' '], _⟩)) around inside _ rules :=
    reads_declarationBlock space rfl rfl written reads
  exact (Reads.prelude rfl form space_blank.blank (ends_openBrace _) (fun _ _ => rfl) behind).gap
    space

/-! ## All rules -/

variable {σ τ ε : Type} {good : σ → Prop} {prelude : σ → Text} {change : Lexeme → Except ε τ}
  {result : σ → τ}

variable (source)

mutual
/-- A printed rule is read as a raw rule that changes to the expected one, if its
prelude does. -/
theorem exists_reads_render (form : ∀ style, good style → IsPrelude (prelude style))
    (changes : ∀ style, good style → Uncommented (prelude style ++ [' ']) → ∀ index,
      change ⟨prelude style ++ [' '], index⟩ = .ok (result style)) :
    ∀ {levels : Nat} {rule : Rule σ} {indent : Text} (around : List (Head × Body))
      (inside : Body) (rest : Text), Rule.Formed good levels rule →
      Uncommented (rule.render prelude indent) → Space indent → Progress.resumed around = .rule →
      ∃ raw, raw.traverse change = .ok (rule.map result) ∧
        ∀ all, Reads source .rule around (inside.addRule raw) rest all →
          Reads source .rule around inside (rule.render prelude indent ++ rest) all
  | _, .charset value, _, _, _, _, formed, _, space, _ =>
      ⟨.charset value, rfl, fun _ => reads_charset space formed⟩
  | _, .nameSpace value, _, _, _, _, formed, _, space, _ =>
      ⟨.nameSpace value, rfl, fun _ => reads_nameSpace space formed⟩
  | _, .fontFace declarations, _, _, _, _, formed, _, space, resumes =>
      ⟨.fontFace declarations, rfl, fun _ => reads_fontFace space resumes formed.2⟩
  | _, .page selector declarations, _, _, _, _, formed, _, space, resumes =>
      ⟨.page selector declarations, rfl,
        fun _ => reads_page space resumes formed.2.1 formed.2.2⟩
  | _, .keyframes keyword name frames, _, _, _, _, formed, _, space, resumes =>
      ⟨.keyframes keyword name frames, rfl, fun _ => reads_keyframesRule space resumes
        formed.2.1 formed.2.2.1 fun frame member => (formed.2.2.2 frame member).2⟩
  | _, .conditional clause condition inner, indent, around, inside, rest, formed,
      uncommented, space, resumes => by
      have innerUncommented : Uncommented (Rule.renderAll prelude (deeper indent) inner) :=
        uncommented.of_infix (lines_infix_block _ _ _)
      rcases exists_reads_renderAll form changes ((.conditional clause condition, inside) :: around)
        .empty (indent ++ '}' :: (['\n'] ++ rest)) formed.2.2.2 innerUncommented
        (space_deeper space) rfl with
        ⟨raws, changed, within⟩
      refine ⟨.conditional clause condition raws, by rw [Rule.traverse, changed]; rfl, ?_⟩
      intro all reads
      exact reads_conditional space resumes formed.2.1 formed.2.2.1 (within all) reads
  | _, .style style declarations, indent, around, inside, rest, formed, uncommented, space,
      resumes => by
      have alone : Uncommented (prelude style ++ [' ']) :=
        uncommented.of_infix (head_infix_block _ _ _)
      refine ⟨.style ⟨prelude style ++ [' '], _⟩ declarations, ?_, fun all reads =>
        reads_style space resumes (form style formed.2.1) formed.2.2 reads⟩
      rw [Rule.traverse, changes style formed.2.1 alone]
      rfl
  | _, .foreign _, _, _, _, _, formed, _, _, _ => formed.elim

theorem exists_reads_renderAll (form : ∀ style, good style → IsPrelude (prelude style))
    (changes : ∀ style, good style → Uncommented (prelude style ++ [' ']) → ∀ index,
      change ⟨prelude style ++ [' '], index⟩ = .ok (result style)) :
    ∀ {levels : Nat} {rules : List (Rule σ)} {indent : Text} (around : List (Head × Body))
      (inside : Body) (rest : Text), Rule.AllFormed good levels rules →
      Uncommented (Rule.renderAll prelude indent rules) → Space indent →
      Progress.resumed around = .rule →
      ∃ raws, Rule.traverseAll change raws = .ok (Rule.mapAll result rules) ∧
        ∀ all, Reads source .rule around
            ⟨inside.rules ++ raws, inside.frames, inside.declarations⟩ rest all →
          Reads source .rule around inside (Rule.renderAll prelude indent rules ++ rest) all
  | _, [], _, _, inside, _, _, _, _, _ => by
      refine ⟨[], rfl, fun all reads => ?_⟩
      simpa [Rule.renderAll] using reads
  | _, rule :: others, indent, around, inside, rest, formed, uncommented, space, resumes => by
      rcases exists_reads_render form changes around inside
        (Rule.renderAll prelude indent others ++ rest) formed.1
        (uncommented.of_infix (List.prefix_append _ _).isInfix) space resumes with
        ⟨raw, changed, first⟩
      rcases exists_reads_renderAll form changes around (inside.addRule raw) rest formed.2
        (uncommented.of_infix (List.suffix_append _ _).isInfix) space resumes with
        ⟨raws, changedAll, further⟩
      refine ⟨raw :: raws, by rw [Rule.traverseAll, changed, changedAll]; rfl, ?_⟩
      intro all reads
      rw [Rule.renderAll, List.append_assoc]
      refine first all (further all ?_)
      simpa [Body.addRule] using reads
end

end Reading

end ScopedMarkup.Css.Sheet
