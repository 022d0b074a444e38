import ScopedMarkup.Proofs.Markup.Reading
import ScopedMarkup.Proofs.Markup.Run

/-! # Layout

A tree can be written in many ways: with more blanks in its tags and around its nodes,
with either kind of quotes around a value, with or without a closing tag where an element
has no children, and in lenient reading with any name in a closing tag. All of them are
read as the tree.
-/

namespace ScopedMarkup.Markup

open Node (Adjoins FormedAll)

variable {config : Config} {text rest value script tag opening closing : Text}
  {openTags : List Text} {attributes : List Attribute} {piece : Piece}

/-! ## Ways of writing -/

/-- The mark at the end of an open tag. -/
def tagMark (closesItself : Bool) : Text := if closesItself then ['/', '>'] else ['>']

/-- An open tag can be written as this text. -/
def WritesOpenTag (tag : Text) (attributes : List Attribute) (closesItself : Bool)
    (opening : Text) : Prop :=
  ∃ written blanks : Text, WritesAttributes attributes written ∧ blanks.Blank ∧
    opening = '<' :: (tag ++ (written ++ (blanks ++ tagMark closesItself)))

/-- The closing tag of an element can be written as this text. Only strict reading wants
the name of the element in it. -/
def WritesCloseTag (strict : Bool) (tag closing : Text) : Prop :=
  ∃ name blanks : Text, IsName name ∧ name.getLast? ≠ some '/' ∧ (strict = true → name = tag) ∧
    blanks.Blank ∧ closing = '<' :: '/' :: (name ++ (blanks ++ ['>']))

mutual
/-- A node can be written as this text. -/
inductive Node.Writes (strict : Bool) : Node Css.Selector → Text → Prop where
  | text {value : Text} : Writes strict (.text value) value
  | slot {script after : Text} :
      after.Blank → Writes strict (.slot script) (slotText script ++ after)
  | closingItself {tag opening after : Text} {attributes : List Attribute} :
      WritesOpenTag tag attributes true opening → after.Blank →
        Writes strict (.element tag attributes []) (opening ++ after)
  | element {tag opening before inside closing after : Text} {attributes : List Attribute}
      {children : List (Node Css.Selector)} :
      WritesOpenTag tag attributes false opening → before.Blank →
      Node.WritesAll strict children inside → WritesCloseTag strict tag closing → after.Blank →
        Writes strict (.element tag attributes children)
          (opening ++ (before ++ (inside ++ (closing ++ after))))

inductive Node.WritesAll (strict : Bool) : List (Node Css.Selector) → Text → Prop where
  | nil : WritesAll strict [] []
  | cons {node : Node Css.Selector} {nodes : List (Node Css.Selector)} {text more : Text} :
      Node.Writes strict node text → WritesAll strict nodes more →
        WritesAll strict (node :: nodes) (text ++ more)
end

/-! ## Pieces -/

theorem kind_lessThan_of_isTag (isTag : IsTag tag) (rest : Text) :
    (Token.first ('<' :: (tag ++ rest))).kind = .lessThan ∧
      Token.rest ('<' :: (tag ++ rest)) = tag ++ rest := by
  have opens : (tag ++ rest).head? ≠ some '/' := by
    rw [List.head?_append_of_ne_nil _ isTag.isName.nonempty]
    exact isTag.opens
  rw [Token.kind_first]
  exact ⟨Token.kindAt_lessThan_cons opens, Token.rest_lessThan_cons opens⟩

theorem readPiece_openTag (inside : openTags.length < config.maxDepth) (isTag : IsTag tag) :
    readPiece config openTags ('<' :: (tag ++ rest)) = readElement config (tag ++ rest) := by
  have begins := kind_lessThan_of_isTag isTag rest
  unfold readPiece
  simp only [begins]
  exact if_neg (Nat.not_le_of_lt inside)

theorem readPiece_closeTag {outer : Text} {others : List Text} :
    readPiece config (outer :: others) ('<' :: '/' :: text) =
      (readClosing config outer text).map (.closing, ·) := rfl

theorem readPiece_slot (isScript : IsScript script) :
    readPiece config openTags (slotText script ++ rest) = .ok (.whole (.slot script), rest) := by
  have written : slotText script ++ rest = '{' :: '{' :: (script ++ '}' :: '}' :: rest) := by
    simp [slotText]
  have captured : Token.capture Token.endsScript (script ++ '}' :: '}' :: rest) =
      (script, '}' :: '}' :: rest) := by
    apply (Token.capture_eq_iff Token.aligned_endsScript).mpr
    refine ⟨rfl, Token.goesOn_script_iff.mpr ⟨isScript.noEnd, ?_⟩, .inr rfl⟩
    exact fun both => isScript.ends both.1
  rw [written, readPiece_slotOpen, captured]
  rfl

theorem readPiece_text (isRun : IsTextRun value) (meets : Meets value rest) :
    readPiece config openTags (value ++ rest) = .ok (.whole (.text value), rest) := by
  have goesOn : Token.GoesOn Token.endsText value rest :=
    Token.goesOn_text_iff.mpr ⟨isRun.noTag, isRun.noSlot, meets.apart⟩
  have captured : Token.capture Token.endsText (value ++ rest) = (value, rest) :=
    (Token.capture_eq_iff Token.aligned_endsText).mpr ⟨rfl, goesOn, meets.stops⟩
  rw [readPiece_of_not_endsText (goesOn [] value rfl isRun.nonempty), captured]

/-! ## Tags -/

theorem endsPart_tagMark (closesItself : Bool) (rest : Text) :
    EndsPart (tagMark closesItself ++ rest) := by
  cases closesItself with
  | false => exact .greaterThan rest
  | true => exact .selfClose

theorem readAttributes_tagMark {blanks : Text} (blank : blanks.Blank) (closesItself : Bool) :
    readAttributes config attributes (blanks ++ (tagMark closesItself ++ rest)) =
      .ok ⟨attributes, closesItself, rest⟩ := by
  cases closesItself with
  | false => exact readAttributes_greaterThan blank
  | true => exact readAttributes_selfClose blank

/-- The last part of an open tag, where the name of the tag is like an attribute
without a value. -/
def lastPart (tag : Text) (attributes : List Attribute) : Attribute :=
  attributes.getLast?.getD ⟨tag, none⟩

theorem not_slashed_of_mem_getLast? (plain : ¬ (lastPart tag attributes).Slashed) :
    ∀ last ∈ attributes.getLast?, ¬ last.Slashed := by
  intro last isLast
  rwa [lastPart, Option.mem_def.mp isLast] at plain

theorem readName_of_writesAttributes {written : Text} (isTag : IsTag tag)
    (plain : attributes = [] → tag.getLast? ≠ some '/')
    (writes : WritesAttributes attributes written) (ends : EndsPart rest) :
    readName (tag ++ (written ++ rest)) = .ok (tag, written ++ rest) := by
  apply readName_of_endsPart isTag.isName (writes.endsPart_append ends)
  intro closes slash
  cases writes with
  | nil => exact plain rfl slash
  | cons nonempty blank =>
      rw [List.append_assoc] at closes
      exact (endsPart_of_blanks nonempty blank _).2 closes

/-- What an open tag is read as. -/
def tagPiece (tag : Text) (attributes : List Attribute) (closesItself : Bool) : Piece :=
  if closesItself then .whole (.element tag attributes []) else .opening tag attributes

theorem readPiece_of_writesOpenTag {closesItself : Bool}
    (opens : Opens config openTags.length tag attributes)
    (plain : ¬ (lastPart tag attributes).Slashed)
    (writes : WritesOpenTag tag attributes closesItself opening) :
    readPiece config openTags (opening ++ rest) =
      .ok (tagPiece tag attributes closesItself, rest) := by
  rcases writes with ⟨written, blanks, writesAttributes, blank, rfl⟩
  have split : '<' :: (tag ++ (written ++ (blanks ++ tagMark closesItself))) ++ rest =
      '<' :: (tag ++ (written ++ (blanks ++ (tagMark closesItself ++ rest)))) := by simp
  have ends : EndsPart (blanks ++ (tagMark closesItself ++ rest)) :=
    (endsPart_tagMark closesItself rest).blanks_append blank
  have named : readName (tag ++ (written ++ (blanks ++ (tagMark closesItself ++ rest)))) =
      .ok (tag, written ++ (blanks ++ (tagMark closesItself ++ rest))) := by
    apply readName_of_writesAttributes opens.isTag _ writesAttributes ends
    rintro rfl slash
    exact plain ⟨rfl, slash⟩
  have attributed :
      readAttributes config [] (written ++ (blanks ++ (tagMark closesItself ++ rest))) =
        .ok ⟨attributes, closesItself, rest⟩ := by
    rw [readAttributes_of_writes writesAttributes opens.formed ends
      fun _ => not_slashed_of_mem_getLast? plain]
    exact readAttributes_tagMark blank closesItself
  rw [split, readPiece_openTag opens.inside opens.isTag]
  simp only [readElement, named, attributed]
  rw [if_neg opens.isOther, tagPiece]
  cases closesItself <;> rfl

theorem readPiece_of_writesCloseTag (writes : WritesCloseTag config.strict tag closing) :
    readPiece config (tag :: openTags) (closing ++ rest) = .ok (.closing, rest) := by
  rcases writes with ⟨name, blanks, isName, plain, matching, blank, rfl⟩
  have split : '<' :: '/' :: (name ++ (blanks ++ ['>'])) ++ rest =
      '<' :: '/' :: (name ++ (blanks ++ '>' :: rest)) := by simp
  have named : readName (name ++ (blanks ++ '>' :: rest)) = .ok (name, blanks ++ '>' :: rest) :=
    readName_of_endsPart isName ((EndsPart.greaterThan rest).blanks_append blank) fun _ => plain
  have trimmed : Text.trimStart (blanks ++ '>' :: rest) = '>' :: rest := by
    rw [Text.trimStart_blank_append blank]
    exact Text.trimStart_eq_of_leaves (Text.leaves_cons.mpr (by decide))
  have closed : Token.expect .greaterThan ('>' :: rest) = .ok rest := rfl
  have matches_ : ¬ (config.strict && name ≠ tag) = true := by
    simpa using matching
  simp only [split, readPiece_closeTag, readClosing, named, trimmed, closed]
  rw [if_neg matches_]
  rfl

/-! ## Steps -/

theorem readFrom_eq_of_readPiece {progress : Progress} (leaves : text.Leaves isBlank)
    (nonempty : text ≠ []) (read : readPiece config progress.openTags text = .ok (piece, rest)) :
    readFrom config progress text = readFrom config (progress.add piece) rest := by
  rw [readFrom.eq_def]
  simp only [Text.trimStart_eq_of_leaves leaves, nonempty, dite_false]
  split
  · rename_i fault readOne
    rw [Text.trimStart_eq_of_leaves leaves, read] at readOne
    cases readOne
  · rename_i other following readOne
    rw [Text.trimStart_eq_of_leaves leaves, read] at readOne
    cases readOne
    rfl

theorem meets_lessThan (value rest : Text) : Meets value ('<' :: rest) :=
  ⟨.inr (Token.endsText_iff.mpr (.inl rfl)), by simp⟩

/-! ## Trees -/

/-- A node is read back from its tags: it is no style element, and no slash ends its open
tag or its name. -/
def Node.Plain {σ : Type} : Node σ → Prop
  | .element tag attributes _ =>
      tag.getLast? ≠ some '/' ∧ ∀ last ∈ attributes.getLast?, ¬ last.Slashed
  | .style .. => False
  | _ => True

instance {σ : Type} : DecidablePred (Node.Plain : Node σ → Prop)
  | .element tag attributes _ => inferInstanceAs (Decidable
      (tag.getLast? ≠ some '/' ∧ ∀ last ∈ attributes.getLast?, ¬ last.Slashed))
  | .style .. => isFalse not_false
  | .text _ | .slot _ | .fragment _ | .foreign _ => isTrue trivial

theorem Node.Plain.lastPart {σ : Type} {children : List (Node σ)}
    (plain : (Node.element tag attributes children).Plain) :
    ¬ (lastPart tag attributes).Slashed := by
  cases last : attributes.getLast? with
  | none =>
      rw [Markup.lastPart, last]
      exact fun slashed => plain.1 slashed.2
  | some entry =>
      rw [Markup.lastPart, last]
      exact plain.2 entry last

/-- Blanks before a piece do not count. -/
theorem readFrom_blank_append {progress : Progress} {blanks : Text} (blank : blanks.Blank)
    (text : Text) : readFrom config progress (blanks ++ text) = readFrom config progress text := by
  have same : (blanks ++ text).trimStart = text.trimStart := Text.trimStart_blank_append blank
  by_cases nonempty : text.trimStart = []
  · rw [readFrom, readFrom, dif_pos nonempty, dif_pos (same.trans nonempty), same]
  · rw [readFrom_eq nonempty, readFrom_eq (same ▸ nonempty), same]

/-- What follows a run of text begins with a mark, however it is written. -/
theorem meets_of_writes {strict : Bool} {node : Node Css.Selector} {written : Text}
    (writes : node.Writes strict written) (adjoins : Adjoins (.text value) node) :
    Meets value (written ++ rest) := by
  cases writes with
  | text => cases adjoins
  | slot => exact ⟨.inr rfl, fun both => adjoins both.1⟩
  | closingItself writesOpening =>
      rcases writesOpening with ⟨_, _, -, -, rfl⟩
      exact meets_lessThan ..
  | element writesOpening =>
      rcases writesOpening with ⟨_, _, -, -, rfl⟩
      exact meets_lessThan ..

theorem meets_of_writesAll {strict : Bool} {node : Node Css.Selector}
    {nodes : List (Node Css.Selector)} {written : Text}
    (chain : (node :: nodes).IsChain Adjoins) (writes : Node.WritesAll strict nodes written)
    (meets : ∀ value, (node :: nodes).getLast? = some (.text value) → Meets value rest)
    (isText : node = .text value) : Meets value (written ++ rest) := by
  subst isText
  cases writes with
  | nil => exact meets value rfl
  | cons writesNext =>
      rw [List.append_assoc]
      exact meets_of_writes writesNext (List.isChain_cons_cons.mp chain).1

variable {around : List OpenElement} {inside : List (Node Css.Selector)}

/-- The text of an open tag begins with its sign. -/
theorem WritesOpenTag.leaves {closesItself : Bool}
    (writes : WritesOpenTag tag attributes closesItself opening) :
    Text.Leaves isBlank (opening ++ rest) ∧ opening ++ rest ≠ [] := by
  rcases writes with ⟨_, _, -, -, rfl⟩
  exact ⟨Text.leaves_cons.mpr (by decide), List.cons_ne_nil _ _⟩

/-- An open tag adds an open element, or a whole one where it closes itself. -/
theorem readFrom_of_writesOpenTag {closesItself : Bool}
    (opens : Opens config around.length tag attributes)
    (plain : ¬ (lastPart tag attributes).Slashed)
    (writes : WritesOpenTag tag attributes closesItself opening) :
    readFrom config ⟨around, inside⟩ (opening ++ rest) =
      readFrom config (Progress.add ⟨around, inside⟩ (tagPiece tag attributes closesItself))
        rest := by
  rw [← List.length_map OpenElement.tag] at opens
  exact readFrom_eq_of_readPiece writes.leaves.1 writes.leaves.2
    (readPiece_of_writesOpenTag opens plain writes)

/-- A closing tag turns the innermost open element into a node. -/
theorem readFrom_of_writesCloseTag {before : List (Node Css.Selector)}
    (writes : WritesCloseTag config.strict tag closing) :
    readFrom config ⟨⟨tag, attributes, before⟩ :: around, inside⟩ (closing ++ rest) =
      readFrom config ⟨around, before ++ [.element tag attributes inside]⟩ rest := by
  have leaves : Text.Leaves isBlank (closing ++ rest) ∧ closing ++ rest ≠ [] := by
    rcases writes with ⟨_, _, -, -, -, -, rfl⟩
    exact ⟨Text.leaves_cons.mpr (by decide), List.cons_ne_nil _ _⟩
  have read : readPiece config (Progress.openTags ⟨⟨tag, attributes, before⟩ :: around, inside⟩)
      (closing ++ rest) = .ok (.closing, rest) := readPiece_of_writesCloseTag writes
  exact readFrom_eq_of_readPiece leaves.1 leaves.2 read

theorem readFrom_slot (isScript : IsScript script) :
    readFrom config ⟨around, inside⟩ (slotText script ++ rest) =
      readFrom config ⟨around, inside ++ [.slot script]⟩ rest :=
  readFrom_eq_of_readPiece (Text.leaves_cons.mpr (by decide)) (List.cons_ne_nil _ _)
    (readPiece_slot isScript)

theorem WritesCloseTag.meets {strict : Bool} (writes : WritesCloseTag strict tag closing) :
    Meets value (closing ++ rest) := by
  rcases writes with ⟨_, _, -, -, -, -, rfl⟩
  exact meets_lessThan ..

mutual
/-- A plain node is read from any text that it can be written as. -/
theorem readFrom_of_writes (config : Config) :
    ∀ (node : Node Css.Selector) (around : List OpenElement) (inside : List (Node Css.Selector))
      (written rest : Text), node.Formed config around.length →
      (∀ below ∈ node.walk, below.Plain) → node.Writes config.strict written →
      (∀ value, node = .text value → Meets value rest) →
      readFrom config ⟨around, inside⟩ (written ++ rest) =
        readFrom config ⟨around, inside ++ [node]⟩ rest
  | .text value, around, inside, written, rest, isRun, _, writes, meets => by
      cases writes
      have nonempty : value ++ rest ≠ [] :=
        fun empty => isRun.nonempty (List.append_eq_nil_iff.mp empty).1
      have leaves : Text.Leaves isBlank (value ++ rest) := by
        intro first isHead
        rw [List.head?_append_of_ne_nil _ isRun.nonempty] at isHead
        exact isRun.begins first isHead
      exact readFrom_eq_of_readPiece leaves nonempty (readPiece_text isRun (meets value rfl))
  | .slot script, around, inside, written, rest, isScript, _, writes, _ => by
      cases writes with
      | @slot _ after blank =>
          rw [List.append_assoc, readFrom_slot isScript, readFrom_blank_append blank]
  | .element tag attributes children, around, inside, written, rest, formed, plain, writes, _ => by
      rcases Node.forall_walk_element_iff.mp plain with ⟨own, below⟩
      rcases formed with ⟨depth, isTag, isOther, attributed, chain, all⟩
      have opens : Opens config around.length tag attributes := ⟨depth, isTag, isOther, attributed⟩
      cases writes with
      | @closingItself _ opening after _ writesOpening blank =>
          rw [List.append_assoc, readFrom_of_writesOpenTag opens own.lastPart writesOpening,
            readFrom_blank_append blank]
          rfl
      | @element _ opening before body closing after _ _ writesOpening blankBefore writesBody
          writesClosing blank =>
          simp only [List.append_assoc]
          rw [readFrom_of_writesOpenTag opens own.lastPart writesOpening,
            readFrom_blank_append blankBefore]
          change readFrom config ⟨⟨tag, attributes, inside⟩ :: around, []⟩ _ = _
          rw [readFrom_of_writesAll config children (⟨tag, attributes, inside⟩ :: around) [] body _
              all below chain writesBody fun value _ => writesClosing.meets,
            List.nil_append, readFrom_of_writesCloseTag writesClosing, readFrom_blank_append blank]
  | .style .., _, _, _, _, _, plain, _, _ => absurd (plain _ List.mem_cons_self) not_false
  | .fragment _, _, _, _, _, formed, _, _, _ => absurd formed not_false
  | .foreign _, _, _, _, _, formed, _, _, _ => absurd formed not_false

theorem readFrom_of_writesAll (config : Config) :
    ∀ (nodes : List (Node Css.Selector)) (around : List OpenElement)
      (inside : List (Node Css.Selector)) (written rest : Text),
      FormedAll config around.length nodes → Node.Everywhere Node.Plain nodes →
      nodes.IsChain Adjoins → Node.WritesAll config.strict nodes written →
      (∀ value, nodes.getLast? = some (.text value) → Meets value rest) →
      readFrom config ⟨around, inside⟩ (written ++ rest) =
        readFrom config ⟨around, inside ++ nodes⟩ rest
  | [], around, inside, written, rest, _, _, _, writes, _ => by
      cases writes
      rw [List.append_nil]
      rfl
  | node :: nodes, around, inside, written, rest, all, plain, chain, writes, meets => by
      rcases Node.everywhere_cons_iff.mp plain with ⟨own, others⟩
      have furtherMeets : ∀ value, nodes.getLast? = some (.text value) → Meets value rest := by
        intro value last
        apply meets value
        rw [List.getLast?_cons, last]
        rfl
      cases writes with
      | @cons _ _ here more writesNode writesNodes =>
          rw [List.append_assoc,
            readFrom_of_writes config node around inside here _ all.1 own writesNode
              fun value isText => meets_of_writesAll chain writesNodes meets isText,
            readFrom_of_writesAll config nodes around (inside ++ [node]) more rest all.2 others
              chain.tail writesNodes furtherMeets, ← List.append_cons]
end

theorem readFrom_start_of_writesAll {nodes : List (Node Css.Selector)} {written : Text}
    (all : FormedAll config 0 nodes) (chain : nodes.IsChain Adjoins)
    (plain : Node.Everywhere Node.Plain nodes)
    (writes : Node.WritesAll config.strict nodes written) :
    readFrom config .start written = .ok (.ofTop nodes) := by
  have meets : ∀ value, nodes.getLast? = some (.text value) → Meets value [] :=
    fun _ _ => ⟨.inl rfl, by simp⟩
  have whole := readFrom_of_writesAll config nodes [] [] written [] all plain chain writes meets
  rw [List.append_nil] at whole
  rw [Progress.start, whole, readFrom.eq_def]
  rfl

/-- Layout does not matter: a tree of formed nodes at the top, with no style element and
no slash at the end of a tag or of its name, is read from every text that it can be
written as. -/
theorem read_of_writesAll {nodes : List (Node Css.Selector)} {blanks written : Text}
    (all : FormedAll config 0 nodes) (chain : nodes.IsChain Adjoins)
    (plain : Node.Everywhere Node.Plain nodes) (blank : blanks.Blank)
    (writes : Node.WritesAll config.strict nodes written) :
    read config (blanks ++ written) = .ok (.ofTop nodes) := by
  rw [read_eq_ok_iff, readFrom_blank_append blank]
  exact readFrom_start_of_writesAll all chain plain writes

/-- Each kind of layout at once. -/
theorem read_of_writesAll_mixed :
    read .standard "\n<a\tb='\"' c > x <d />\n</e >\x7b\x7bh\x7d\x7d " =
      .ok (.fragment [.element "a" [⟨"b", some "\""⟩, ⟨"c", none⟩]
        [.text "x ", .element "d" [] []], .slot "h"]) := by
  have opensOuter : WritesOpenTag "a" [⟨"b", some "\""⟩, ⟨"c", none⟩] false "<a\tb='\"' c >" :=
    ⟨_, " ", .cons (by decide) (by decide : Text.Blank "\t") (.quoted (.inl rfl) (by decide))
      (.cons (by decide) Text.blank_space .bare .nil), Text.blank_space, by decide⟩
  have opensInner : WritesOpenTag "d" [] true "<d />" :=
    ⟨_, " ", .nil, Text.blank_space, by decide⟩
  have closes : WritesCloseTag false "a" "</e >" :=
    ⟨"e", " ", by decide, by decide, nofun, Text.blank_space, by decide⟩
  have inside : Node.WritesAll false [.text "x ", .element "d" [] []] _ :=
    .cons .text (.cons (.closingItself opensInner (by decide : Text.Blank "\n")) .nil)
  have writes : Node.WritesAll false [.element "a" [⟨"b", some "\""⟩, ⟨"c", none⟩]
      [.text "x ", .element "d" [] []], .slot "h"] _ :=
    .cons (.element opensOuter Text.blank_space inside closes Text.blank_nil)
      (.cons (.slot Text.blank_space) .nil)
  exact @read_of_writesAll .standard _ "\n" _ (by decide) (by decide) (by decide) (by decide) writes

end ScopedMarkup.Markup
