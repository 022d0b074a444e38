import ScopedMarkup.Proofs.Markup.Layout

/-! # Reading what was printed

The text of a formed node is read as that node, unless a slash at the end of a
tag is taken for the mark of a tag that closes itself.
-/

namespace ScopedMarkup.Markup

open Node (Adjoins FormedAll)

variable {config : Config} {text rest value script tag : Text} {openTags : List Text}
  {attributes : List Attribute} {piece : Piece}

/-! ## Open tags -/

theorem ne_of_readElement_slashedTag (isTag : IsTag tag) (slashed : tag.getLast? = some '/')
    (read : readElement config (tag ++ '>' :: rest) = .ok (piece, text)) :
    piece ≠ .opening tag [] ∧ piece ≠ .whole (.element tag [] []) := by
  rcases List.getLast?_eq_some_iff.mp slashed with ⟨stem, rfl⟩
  have nonempty : stem ≠ [] := by
    rintro rfl
    exact isTag.opens rfl
  have named : readName (stem ++ ['/'] ++ '>' :: rest) = .ok (stem, '/' :: '>' :: rest) := by
    rw [← List.append_cons]
    exact readName_append_selfClose (isTag.isName.of_append nonempty)
  have attributed : readAttributes config [] ('/' :: '>' :: rest) = .ok ⟨[], true, rest⟩ :=
    readAttributes_selfClose Text.blank_nil
  simp only [readElement, named, attributed, if_true] at read
  split at read
  · cases read
    exact ⟨Piece.noConfusion, by simp⟩
  · cases read
    exact ⟨Piece.noConfusion, by simp⟩

theorem ne_of_readElement_slashedAttribute {entry : Attribute}
    (opens : Opens config openTags.length tag (attributes ++ [entry])) (slashed : entry.Slashed)
    (read : readElement config
      (tag ++ (Attribute.renderAll (attributes ++ [entry]) ++ '>' :: rest)) = .ok (piece, text)) :
    piece ≠ .opening tag (attributes ++ [entry]) ∧
      piece ≠ .whole (.element tag (attributes ++ [entry]) []) := by
  have written : Attribute.renderAll (attributes ++ [entry]) ++ '>' :: rest =
      Attribute.renderAll attributes ++ ' ' :: (entry.render ++ '>' :: rest) := by
    simp [Attribute.renderAll]
  have isFormed := formedAttributes_append_iff.mp opens.formed
  have writes : WritesAttributes attributes (Attribute.renderAll attributes) :=
    writesAttributes_renderAll isFormed.1.each
  have ends : EndsPart (' ' :: (entry.render ++ '>' :: rest)) := .sign (by decide) (by decide)
  have named : readName (tag ++ (Attribute.renderAll (attributes ++ [entry]) ++ '>' :: rest)) =
      .ok (tag, Attribute.renderAll (attributes ++ [entry]) ++ '>' :: rest) :=
    readName_of_writesAttributes opens.isTag (fun empty => absurd empty (by simp))
      (writesAttributes_renderAll opens.formed.each) (.greaterThan rest)
  have attributed :
      readAttributes config [] (Attribute.renderAll (attributes ++ [entry]) ++ '>' :: rest) =
        readAttributes config attributes ([' '] ++ entry.render ++ '>' :: rest) := by
    rw [written, readAttributes_of_writes writes isFormed.1 ends fun closes => by simp at closes]
    rfl
  simp only [readElement, named, attributed] at read
  cases ended : readAttributes config attributes ([' '] ++ entry.render ++ '>' :: rest) with
  | error fault =>
      rw [ended] at read
      cases read
  | ok found =>
      rcases found with ⟨attributes', closesItself, following⟩
      rcases readAttributes_slashed isFormed.2.1 slashed Text.blank_space ended with ⟨closes, other⟩
      cases closes
      rw [ended] at read
      simp only [opens.isOther, if_true, if_false] at read
      cases read
      refine ⟨Piece.noConfusion, fun equal => other ?_⟩
      injection equal with equal
      injection equal

/-- Where the last part is slashed, the tag closes itself and loses the slash. -/
theorem ne_of_readElement_slashed (opens : Opens config openTags.length tag attributes)
    (slashed : (lastPart tag attributes).Slashed)
    (read : readElement config (tag ++ (Attribute.renderAll attributes ++ '>' :: rest)) =
      .ok (piece, text)) :
    piece ≠ .opening tag attributes ∧ piece ≠ .whole (.element tag attributes []) := by
  rcases List.eq_nil_or_concat attributes with rfl | ⟨init, entry, rfl⟩
  · exact ne_of_readElement_slashedTag opens.isTag slashed.2 read
  · rw [List.concat_eq_append] at opens read ⊢
    have isLast : lastPart tag (init.concat entry) = entry := by
      rw [lastPart, List.concat_eq_append, List.getLast?_concat]
      rfl
    exact ne_of_readElement_slashedAttribute opens (isLast ▸ slashed) read

/-! ## Trees -/

theorem exists_of_readFrom {progress : Progress} {tree : Node Css.Selector}
    (leaves : text.Leaves isBlank) (nonempty : text ≠ [])
    (read : readFrom config progress text = .ok tree) :
    ∃ piece rest, readPiece config progress.openTags text = .ok (piece, rest) ∧
      readFrom config (progress.add piece) rest = .ok tree := by
  rw [readFrom.eq_def] at read
  simp only [Text.trimStart_eq_of_leaves leaves, nonempty, dite_false] at read
  split at read
  · cases read
  · rename_i piece following readOne
    rw [Text.trimStart_eq_of_leaves leaves] at readOne
    exact ⟨piece, following, readOne, read⟩

theorem enclose_append (inside : Text) : enclose tag attributes inside ++ rest =
    '<' :: (tag ++ (Attribute.renderAll attributes ++
      '>' :: (inside ++ '<' :: '/' :: (tag ++ '>' :: rest)))) := by
  simp [enclose]

/-- A formed node follows a run of text that can stand before it. -/
theorem meets_renderWith {σ : Type} {node : Node σ} {depth : Nat} (prelude : σ → Text)
    (formed : node.Formed config depth) (adjoins : Adjoins (.text value) node) :
    Meets value (node.renderWith prelude ++ rest) := by
  cases node with
  | text other => cases adjoins
  | slot script => exact ⟨.inr rfl, fun both => adjoins both.1⟩
  | element tag attributes children =>
      rw [Node.renderWith, enclose_append]
      exact meets_lessThan ..
  | style attributes sheet =>
      rw [Node.renderWith, enclose_append]
      exact meets_lessThan ..
  | fragment children => cases formed
  | foreign value => cases formed

theorem meets_renderAllWith {σ : Type} {node : Node σ} {nodes : List (Node σ)} {depth : Nat}
    (prelude : σ → Text) (all : FormedAll config depth nodes)
    (chain : (node :: nodes).IsChain Adjoins)
    (meets : ∀ value, (node :: nodes).getLast? = some (.text value) → Meets value rest)
    (isText : node = .text value) : Meets value (Node.renderAllWith prelude nodes ++ rest) := by
  subst isText
  cases nodes with
  | nil => exact meets value rfl
  | cons following nodes =>
      rw [Node.renderAllWith, List.append_assoc]
      exact meets_renderWith prelude all.1 (List.isChain_cons_cons.mp chain).1

theorem writesOpenTag_render (formed : FormedAttributes config attributes) :
    WritesOpenTag tag attributes false
      ('<' :: (tag ++ (Attribute.renderAll attributes ++ ['>']))) :=
  ⟨_, [], writesAttributes_renderAll formed.each, Text.blank_nil, rfl⟩

theorem writesCloseTag_render {strict : Bool} (isTag : IsTag tag)
    (plain : tag.getLast? ≠ some '/') :
    WritesCloseTag strict tag ('<' :: '/' :: (tag ++ ['>'])) :=
  ⟨tag, [], isTag.isName, plain, fun _ => rfl, Text.blank_nil, rfl⟩

variable {around : List OpenElement} {inside : List (Node Css.Selector)}

/-- An open tag adds an open element. -/
theorem readFrom_openTag (opens : Opens config around.length tag attributes)
    (plain : ¬ (lastPart tag attributes).Slashed) :
    readFrom config ⟨around, inside⟩
        ('<' :: (tag ++ (Attribute.renderAll attributes ++ '>' :: rest))) =
      readFrom config ⟨⟨tag, attributes, inside⟩ :: around, []⟩ rest := by
  have step := @readFrom_of_writesOpenTag config rest tag _ attributes around inside false opens
    plain (writesOpenTag_render opens.formed)
  simpa [tagPiece, Progress.add] using step

mutual
/-- The text of a plain node is one that it can be written as. -/
theorem writes_renderWith (prelude : Css.Selector → Text) : ∀ {node : Node Css.Selector}
    {depth : Nat}, node.Formed config depth → (∀ below ∈ node.walk, below.Plain) →
      node.Writes config.strict (node.renderWith prelude)
  | .text _, _, _, _ => .text
  | .slot script, _, _, _ => by
      have writes := @Node.Writes.slot config.strict script [] Text.blank_nil
      rwa [List.append_nil] at writes
  | .element tag attributes children, depth, formed, plain => by
      rcases Node.forall_walk_element_iff.mp plain with ⟨own, below⟩
      rcases formed with ⟨-, isTag, -, attributed, -, all⟩
      have writes := Node.Writes.element (writesOpenTag_render attributed) Text.blank_nil
        (writesAll_renderAllWith prelude all below)
        (writesCloseTag_render isTag own.1) Text.blank_nil
      simpa [Node.renderWith, enclose] using writes
  | .style .., _, _, plain => absurd (plain _ List.mem_cons_self) not_false
  | .fragment _, _, formed, _ => absurd formed not_false
  | .foreign _, _, formed, _ => absurd formed not_false

theorem writesAll_renderAllWith (prelude : Css.Selector → Text) :
    ∀ {nodes : List (Node Css.Selector)} {depth : Nat}, FormedAll config depth nodes →
      Node.Everywhere Node.Plain nodes →
      Node.WritesAll config.strict nodes (Node.renderAllWith prelude nodes)
  | [], _, _, _ => .nil
  | _ :: _, _, all, plain =>
      .cons (writes_renderWith prelude all.1 (Node.everywhere_cons_iff.mp plain).1)
        (writesAll_renderAllWith prelude all.2 (Node.everywhere_cons_iff.mp plain).2)
end

end ScopedMarkup.Markup
