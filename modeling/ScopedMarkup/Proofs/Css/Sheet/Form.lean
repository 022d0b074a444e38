import ScopedMarkup.Css.Sheet.Printer
import ScopedMarkup.Css.Sheet.Reader
import ScopedMarkup.Proofs.Css.Selector.Form

/-! # The form of sheets that were read

What each part of a rule looks like so that its text is read as that part, and how
many blocks a rule needs: `Rule.Formed` puts both together.
-/

namespace ScopedMarkup.Css

/-! ## Raw text -/

/-- Preludes and values. -/
def rawSpan : Span where
  outside := ['{', '}', ';', '"', '\'', '(']
  inside := some [')', '"', '\'', '{', '}']

/-- The text begins with a character that is no blank and not one of these. -/
def BeginsApart (characters text : Text) : Prop :=
  ∃ first rest, text = first :: rest ∧ isBlank first = false ∧ first ∉ characters

/-- Raw text with no blank around it. -/
structure IsRaw (characters text : Text) : Prop where
  begins : BeginsApart characters text
  trimmed : text.Trimmed
  whole : rawSpan.Whole text

/-- What stands before a block, or after the keyword of a rule. -/
def IsPrelude : Text → Prop := IsRaw ['{', '}', ';', '@']

/-- The value of a declaration. -/
def IsValue : Text → Prop := IsRaw ['{', '}', ';']

theorem rawSpan_ordinary {character : Char} (unstructural : isStructural character = false) :
    rawSpan.Ordinary character := by
  have different {sign : Char} (structural : isStructural sign = true) : character ≠ sign := by
    rintro rfl
    rw [structural] at unstructural
    simp at unstructural
  have absent {signs : Text} (structural : signs.all isStructural = true) : character ∉ signs := by
    intro member
    exact different (List.all_eq_true.mp structural character member) rfl
  refine ⟨?_, absent (by decide), different (by decide), ?_⟩
  · cases found : Quote.of? character with
    | none => rfl
    | some quote =>
        refine absurd (Quote.eq_character_of_of? found) (different ?_)
        cases quote <;> decide
  · intro excluded member
    cases member
    exact absent (by decide)

/-- Only structure counts for raw text. -/
theorem rawSpan_whole_iff {left right : Text} (equal : skeleton left = skeleton right) :
    rawSpan.Whole left ↔ rawSpan.Whole right :=
  Span.whole_iff_of_filter_eq (fun _ => rawSpan_ordinary) equal

theorem BeginsApart.append {characters text : Text} (begins : BeginsApart characters text)
    (rest : Text) :
    BeginsApart characters (text ++ rest) := by
  rcases begins with ⟨first, others, rfl, apart⟩
  exact ⟨first, others ++ rest, rfl, apart⟩

theorem BeginsApart.ne_nil {characters text : Text} (begins : BeginsApart characters text) :
    text ≠ [] := by
  rcases begins with ⟨first, others, rfl, -⟩
  exact List.cons_ne_nil _ _

theorem BeginsApart.isRaw_trim {characters text : Text} (begins : BeginsApart characters text)
    (whole : rawSpan.Whole text) : IsRaw characters text.trim := by
  refine ⟨?_, Text.trimmed_trim text, (rawSpan_whole_iff (skeleton_trim text).symm).mp whole⟩
  rcases begins with ⟨first, others, rfl, nonblank, apart⟩
  have starts : Text.trimStart (first :: others) = first :: others :=
    Text.trimStart_eq_of_leaves (Text.leaves_cons.mpr nonblank)
  rcases Text.exists_blank_trimStart (first :: others).reverse with ⟨after, blank, split⟩
  have trimmed : Text.trim (first :: others) = Text.trimEnd (first :: others) := by
    rw [Text.trim, starts]
  have whole : first :: others = Text.trim (first :: others) ++ after.reverse := by
    rw [trimmed, Text.trimEnd, ← List.reverse_append, ← split, List.reverse_reverse]
  cases remains : Text.trim (first :: others) with
  | nil =>
      rw [remains, List.nil_append] at whole
      have inside : first ∈ after := List.mem_reverse.mp (whole ▸ List.mem_cons_self)
      rw [blank first inside] at nonblank
      simp at nonblank
  | cons character more =>
      rw [remains, List.cons_append] at whole
      rw [← (List.cons.inj whole).1]
      exact ⟨first, more, rfl, nonblank, apart⟩

/-! ## Names and keywords -/

/-- The name of a declaration, after up to two hyphens. -/
def IsProperty (text : Text) : Prop :=
  ∃ hyphens name, text = hyphens ++ name ∧
    (hyphens = [] ∨ hyphens = ['-'] ∨ hyphens = ['-', '-']) ∧ NameFrom startsName name

/-- A quoted run. -/
def IsString (text : Text) : Prop :=
  ∃ (quote : Quote) (body : Text), text = quote.character :: (body ++ [quote.character]) ∧
    quote.character ∉ body

/-- A vendor's name between hyphens. -/
def IsVendor (text : Text) : Prop :=
  ∃ first rest, text = '-' :: first :: (rest ++ ['-']) ∧ Char.isLower first = true ∧
    ∀ character ∈ rest, Char.isLower character = true

def IsKeyframesKeyword (text : Text) : Prop :=
  ∃ vendor, text = '@' :: (vendor ++ ("keyframes" : Text)) ∧ (vendor = [] ∨ IsVendor vendor)

def Conditional.Written : Conditional → Prop
  | .media | .supports => True
  | .document keyword => keyword = "@document" ∨ keyword = "@-moz-document"

structure Declaration.Written (declaration : Declaration) : Prop where
  name : IsProperty declaration.name
  value : IsValue declaration.value

structure Keyframe.Written (frame : Keyframe) : Prop where
  key : IsPrelude frame.key
  declarations : ∀ declaration ∈ frame.declarations, declaration.Written

/-! ## Rules -/

namespace Rule

variable {σ τ : Type} (good : σ → Prop)

mutual
/-- The rule can be written, its preludes are good, and it fits into so many levels
of blocks. -/
def Formed (levels : Nat) : Rule σ → Prop
  | .charset value => IsString value
  | .nameSpace value => IsPrelude value
  | .fontFace declarations =>
      1 ≤ levels ∧ ∀ declaration ∈ declarations, Declaration.Written declaration
  | .conditional clause condition rules =>
      1 ≤ levels ∧ clause.Written ∧ IsPrelude condition ∧ AllFormed (levels - 1) rules
  | .page selector declarations =>
      1 ≤ levels ∧ (selector = [] ∨ IsPrelude selector) ∧
        ∀ declaration ∈ declarations, Declaration.Written declaration
  | .keyframes keyword name frames =>
      1 ≤ levels ∧ IsKeyframesKeyword keyword ∧ IsPrelude name ∧
        ∀ frame ∈ frames, 2 ≤ levels ∧ Keyframe.Written frame
  | .style prelude declarations =>
      1 ≤ levels ∧ good prelude ∧ ∀ declaration ∈ declarations, Declaration.Written declaration
  | .foreign _ => False

def AllFormed (levels : Nat) : List (Rule σ) → Prop
  | [] => True
  | rule :: rest => Formed levels rule ∧ AllFormed levels rest
end

variable {good}

theorem allFormed_append {levels : Nat} {left right : List (Rule σ)}
    (first : AllFormed good levels left) (second : AllFormed good levels right) :
    AllFormed good levels (left ++ right) := by
  induction left with
  | nil => exact second
  | cons rule left induction => exact ⟨first.1, induction first.2⟩

theorem exists_of_traverseAll_cons {ε : Type} {change : σ → Except ε τ} {rule : Rule σ}
    {rest : List (Rule σ)} {changed : List (Rule τ)}
    (found : traverseAll change (rule :: rest) = .ok changed) :
    ∃ first others, changed = first :: others ∧ traverse change rule = .ok first ∧
      traverseAll change rest = .ok others := by
  rw [traverseAll] at found
  cases here : traverse change rule with
  | error error => simp [here] at found
  | ok first =>
      rw [here] at found
      rcases map_eq_ok_iff.mp found with ⟨others, later, rfl⟩
      exact ⟨first, others, rfl, rfl, later⟩

mutual
/-- Changing the preludes keeps a rule formed, if the change makes good preludes
of good ones. -/
theorem formed_of_traverse {ε : Type} {change : σ → Except ε τ} {better : τ → Prop}
    (keeps : ∀ prelude changed, good prelude → change prelude = .ok changed → better changed) :
    ∀ {levels : Nat} {rule : Rule σ} {changed : Rule τ}, Formed good levels rule →
      traverse change rule = .ok changed → Formed better levels changed
  | _, .charset _, _, formed, found | _, .nameSpace _, _, formed, found
  | _, .fontFace _, _, formed, found | _, .page _ _, _, formed, found
  | _, .keyframes _ _ _, _, formed, found => by
      cases found
      exact formed
  | _, .conditional clause condition rules, _, formed, found => by
      rcases map_eq_ok_iff.mp found with ⟨inner, traversed, rfl⟩
      exact ⟨formed.1, formed.2.1, formed.2.2.1,
        allFormed_of_traverseAll keeps formed.2.2.2 traversed⟩
  | _, .style prelude declarations, _, formed, found => by
      rcases map_eq_ok_iff.mp found with ⟨inner, traversed, rfl⟩
      exact ⟨formed.1, keeps prelude inner formed.2.1 traversed, formed.2.2⟩
  | _, .foreign _, _, formed, _ => formed.elim

theorem allFormed_of_traverseAll {ε : Type} {change : σ → Except ε τ} {better : τ → Prop}
    (keeps : ∀ prelude changed, good prelude → change prelude = .ok changed → better changed) :
    ∀ {levels : Nat} {rules : List (Rule σ)} {changed : List (Rule τ)},
      AllFormed good levels rules → traverseAll change rules = .ok changed →
        AllFormed better levels changed
  | _, [], _, _, found => by
      cases found
      trivial
  | _, rule :: rest, _, formed, found => by
      rcases exists_of_traverseAll_cons found with ⟨first, others, rfl, here, later⟩
      exact ⟨formed_of_traverse keeps formed.1 here, allFormed_of_traverseAll keeps formed.2 later⟩
end

/-! ## Changed preludes -/

mutual
theorem map_id : ∀ rule : Rule σ, map id rule = rule
  | .conditional clause condition rules => by rw [map, mapAll_id rules]
  | .charset _ | .nameSpace _ | .fontFace _ | .page .. | .keyframes .. | .style ..
  | .foreign _ => rfl

theorem mapAll_id : ∀ rules : List (Rule σ), mapAll id rules = rules
  | [] => rfl
  | rule :: rest => by rw [mapAll, map_id rule, mapAll_id rest]
end

mutual
/-- To change the preludes and then print them is to print what they change to. -/
theorem render_map (prelude : τ → Text) (change : σ → τ) :
    ∀ (indent : Text) (rule : Rule σ),
      (rule.map change).render prelude indent =
        rule.render (fun style => prelude (change style)) indent
  | indent, .conditional clause condition rules => by
      rw [map, render, render, renderAll_mapAll prelude change (deeper indent) rules]
  | _, .charset _ | _, .nameSpace _ | _, .fontFace _ | _, .page .. | _, .keyframes ..
  | _, .style .. | _, .foreign _ => rfl

theorem renderAll_mapAll (prelude : τ → Text) (change : σ → τ) :
    ∀ (indent : Text) (rules : List (Rule σ)), renderAll prelude indent (mapAll change rules) =
      renderAll (fun style => prelude (change style)) indent rules
  | _, [] => rfl
  | indent, rule :: rest => by
      rw [mapAll, renderAll, renderAll, render_map prelude change indent rule,
        renderAll_mapAll prelude change indent rest]
end

/-! ## The preludes of rules -/

mutual
/-- What stands before the blocks of style rules, at every depth. -/
def preludes : Rule σ → List σ
  | .conditional _ _ rules => preludesIn rules
  | .style prelude _ => [prelude]
  | .charset _ | .nameSpace _ | .fontFace _ | .page .. | .keyframes .. | .foreign _ => []

def preludesIn : List (Rule σ) → List σ
  | [] => []
  | rule :: rest => preludes rule ++ preludesIn rest
end

mutual
theorem good_of_mem_preludes :
    ∀ {levels : Nat} {rule : Rule σ}, Formed good levels rule → ∀ prelude ∈ preludes rule,
      good prelude
  | _, .conditional _ _ _, formed, prelude, member =>
      good_of_mem_preludesIn formed.2.2.2 prelude member
  | _, .style _ _, formed, prelude, member => by
      rw [List.mem_singleton.mp member]
      exact formed.2.1

theorem good_of_mem_preludesIn :
    ∀ {levels : Nat} {rules : List (Rule σ)}, AllFormed good levels rules →
      ∀ prelude ∈ preludesIn rules, good prelude
  | _, _ :: _, formed, prelude, member => by
      rcases List.mem_append.mp member with member | member
      · exact good_of_mem_preludes formed.1 prelude member
      · exact good_of_mem_preludesIn formed.2 prelude member
end

/-! ## Formed rules can be printed -/

mutual
theorem unprintable?_map (prelude : τ → Option Unprintable) (change : σ → τ) :
    ∀ rule : Rule σ, unprintable? prelude (rule.map change) =
      unprintable? (fun style => prelude (change style)) rule
  | .conditional _ _ rules => unprintableIn?_mapAll prelude change rules
  | .charset _ | .nameSpace _ | .fontFace _ | .page .. | .keyframes .. | .style ..
  | .foreign _ => rfl

theorem unprintableIn?_mapAll (prelude : τ → Option Unprintable) (change : σ → τ) :
    ∀ rules : List (Rule σ), unprintableIn? prelude (mapAll change rules) =
      unprintableIn? (fun style => prelude (change style)) rules
  | [] => rfl
  | rule :: rest => by
      rw [mapAll, unprintableIn?, unprintableIn?, unprintable?_map prelude change rule,
        unprintableIn?_mapAll prelude change rest]
end

mutual
theorem unprintable?_eq_none {prelude : σ → Option Unprintable}
    (printable : ∀ style, good style → prelude style = none) :
    ∀ {levels : Nat} {rule : Rule σ}, Formed good levels rule → unprintable? prelude rule = none
  | _, .conditional _ _ _, formed => unprintableIn?_eq_none printable formed.2.2.2
  | _, .style selector _, formed => printable selector formed.2.1
  | _, .charset _, _ | _, .nameSpace _, _ | _, .fontFace _, _ | _, .page .., _
  | _, .keyframes .., _ => rfl

theorem unprintableIn?_eq_none {prelude : σ → Option Unprintable}
    (printable : ∀ style, good style → prelude style = none) :
    ∀ {levels : Nat} {rules : List (Rule σ)}, AllFormed good levels rules →
      unprintableIn? prelude rules = none
  | _, [], _ => rfl
  | _, _ :: _, formed => by
      rw [unprintableIn?, unprintable?_eq_none printable formed.1]
      exact unprintableIn?_eq_none printable formed.2
end

end Rule

end ScopedMarkup.Css
