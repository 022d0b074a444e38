import ScopedMarkup.Proofs.Markup.Printing

/-! # Printing and reading again

A tree without style elements comes back from its text exactly when no slash ends
the open tag or the name of an element. Otherwise the first such slash makes a
difference that no later text takes back, since the pieces read so far are always
the first pieces of the whole tree.
-/

namespace ScopedMarkup.Markup

open Node (Adjoins FormedAll)

variable {config : Config} {text rest tag : Text} {attributes : List Attribute} {piece : Piece}
  {openTags : List Text}

/-! ## The pieces of a tree -/

namespace Node

mutual
/-- What a node is read from, where an element is read from its two tags. -/
def pieces : Node Css.Selector → List Piece
  | .element tag attributes children => .opening tag attributes :: piecesAll children ++ [.closing]
  | .fragment children => piecesAll children
  | .text value => [.whole (.text value)]
  | .slot script => [.whole (.slot script)]
  | .style attributes sheet => [.whole (.style attributes sheet)]
  | .foreign value => [.whole (.foreign value)]

def piecesAll : List (Node Css.Selector) → List Piece
  | [] => []
  | node :: rest => pieces node ++ piecesAll rest
end

theorem piecesAll_append (left right : List (Node Css.Selector)) :
    piecesAll (left ++ right) = piecesAll left ++ piecesAll right := by
  induction left with
  | nil => rfl
  | cons node left induction =>
      rw [List.cons_append, piecesAll, piecesAll, induction, List.append_assoc]

theorem piecesAll_singleton (node : Node Css.Selector) : piecesAll [node] = node.pieces := by
  rw [piecesAll, piecesAll, List.append_nil]

theorem pieces_ofTop (nodes : List (Node Css.Selector)) :
    (ofTop nodes).pieces = piecesAll nodes := by
  unfold ofTop
  split
  · rw [piecesAll_singleton]
  · rw [pieces]

end Node

/-- An element that closes itself counts as both of its tags. -/
def Piece.expanded : Piece → List Piece
  | .whole node => node.pieces
  | .opening tag attributes => [.opening tag attributes]
  | .closing => [.closing]

/-- The pieces of the open elements, without those of the closing tags still to come. -/
def piecesAround : List OpenElement → List Piece
  | [] => []
  | outer :: around =>
      piecesAround around ++ Node.piecesAll outer.before ++ [.opening outer.tag outer.attributes]

def Progress.pieces (progress : Progress) : List Piece :=
  piecesAround progress.around ++ Node.piecesAll progress.inside

theorem Progress.pieces_add {progress : Progress}
    (closes : piece = .closing → progress.around ≠ []) :
    (progress.add piece).pieces = progress.pieces ++ piece.expanded := by
  rcases progress with ⟨around, inside⟩
  cases piece with
  | whole node =>
      simp [Progress.add, Progress.pieces, Piece.expanded, Node.piecesAll_append,
        Node.piecesAll_singleton]
  | opening tag attributes =>
      simp [Progress.add, Progress.pieces, Piece.expanded, piecesAround, Node.piecesAll]
  | closing =>
      cases around with
      | nil => exact absurd rfl (closes rfl)
      | cons outer around =>
          simp [Progress.add, Progress.pieces, Piece.expanded, piecesAround,
            Node.piecesAll_append, Node.piecesAll_singleton, Node.pieces]

theorem pieces_add_of_readPiece {progress : Progress} (leaves : text.Leaves isBlank)
    (nonempty : text ≠ [])
    (read : readPiece config progress.openTags text = .ok (piece, rest)) :
    (progress.add piece).pieces = progress.pieces ++ piece.expanded := by
  apply Progress.pieces_add
  rintro rfl
  have positive : 0 < progress.openTags.length := formed_of_readPiece nonempty leaves read
  rw [Progress.openTags, List.length_map] at positive
  exact List.length_pos_iff.mp positive

/-- What has been read stays at the front of the tree. -/
theorem pieces_prefix_of_readFrom {progress : Progress} {tree : Node Css.Selector}
    (read : readFrom config progress text = .ok tree) : progress.pieces <+: tree.pieces := by
  fun_induction readFrom config progress text with
  | case1 progress text trimmed empty closed =>
      cases read
      have noneOpen : progress.around = [] := List.isEmpty_iff.mp closed
      rw [Node.pieces_ofTop, Progress.pieces, noneOpen]
      exact List.prefix_rfl
  | case2 | case3 => cases read
  | case4 progress text trimmed nonempty piece following readOne induction =>
      have added := pieces_add_of_readPiece (Text.leaves_dropWhile isBlank text) nonempty readOne
      exact List.IsPrefix.trans ⟨piece.expanded, added.symm⟩ (induction read)

/-! ## Where reading goes another way -/

theorem eq_of_prefixes {α : Type} {front left right whole : List α} {first second : α}
    (one : front ++ first :: left <+: whole) (other : front ++ second :: right <+: whole) :
    first = second := by
  rcases one with ⟨more, rfl⟩
  rw [List.append_assoc, List.prefix_append_right_inj] at other
  exact (List.cons_prefix_cons.mp other).1.symm

/-- A slash at the end of an open tag makes a piece that the tree does not have there. -/
theorem exists_of_readPiece_slashed (opens : Opens config openTags.length tag attributes)
    (slashed : (lastPart tag attributes).Slashed)
    (read : readPiece config openTags
      ('<' :: (tag ++ (Attribute.renderAll attributes ++ '>' :: rest))) = .ok (piece, text)) :
    ∃ first others, piece.expanded = first :: others ∧ first ≠ .opening tag attributes := by
  rw [readPiece_openTag opens.inside opens.isTag] at read
  have different := ne_of_readElement_slashed opens slashed read
  have begins : (tag ++ (Attribute.renderAll attributes ++ '>' :: rest)).head? ≠ some '/' := by
    rw [List.head?_append_of_ne_nil _ opens.isTag.isName.nonempty]
    exact opens.isTag.opens
  cases ofTag_of_readElement opens.inside begins read with
  | opening => exact ⟨_, [], rfl, different.1⟩
  | empty =>
      refine ⟨_, [.closing], rfl, fun equal => different.2 ?_⟩
      cases equal
      rfl
  | style => exact ⟨_, [], rfl, Piece.noConfusion⟩

variable {around : List OpenElement} {inside : List (Node Css.Selector)}
  {tree : Node Css.Selector}

theorem not_prefix_of_slashed {more : List Piece}
    (opens : Opens config around.length tag attributes) (slashed : (lastPart tag attributes).Slashed)
    (read : readFrom config ⟨around, inside⟩
      ('<' :: (tag ++ (Attribute.renderAll attributes ++ '>' :: rest))) = .ok tree) :
    ¬ Progress.pieces ⟨around, inside⟩ ++ .opening tag attributes :: more <+: tree.pieces := by
  have leaves : Text.Leaves isBlank
      ('<' :: (tag ++ (Attribute.renderAll attributes ++ '>' :: rest))) :=
    Text.leaves_cons.mpr (by decide)
  rcases exists_of_readFrom leaves (List.cons_ne_nil _ _) read with
    ⟨piece, following, readOne, further⟩
  have begins := pieces_prefix_of_readFrom further
  rw [pieces_add_of_readPiece leaves (List.cons_ne_nil _ _) readOne] at begins
  rw [← List.length_map OpenElement.tag] at opens
  rcases exists_of_readPiece_slashed opens slashed readOne with ⟨first, others, equal, different⟩
  rw [equal] at begins
  exact fun asPrinted => different (eq_of_prefixes begins asPrinted)

/-- No closing tag can be read with a slash at the end of its name. -/
theorem readFrom_closeTag_ne_ok (isTag : IsTag tag) (slashed : tag.getLast? = some '/') :
    readFrom config ⟨around, inside⟩ ('<' :: '/' :: (tag ++ '>' :: rest)) ≠ .ok tree := by
  intro read
  rcases exists_of_readFrom (Text.leaves_cons.mpr (by decide)) (List.cons_ne_nil _ _) read with
    ⟨piece, following, readOne, -⟩
  cases around with
  | nil => cases readOne
  | cons outer around =>
      rw [Progress.openTags, List.map_cons, readPiece_closeTag, map_eq_ok_iff] at readOne
      rcases readOne with ⟨remaining, closed, -⟩
      exact readClosing_ne_ok isTag slashed closed

theorem pieces_open (outer : OpenElement) (around : List OpenElement) :
    Progress.pieces ⟨outer :: around, []⟩ =
      Progress.pieces ⟨around, outer.before⟩ ++ [.opening outer.tag outer.attributes] := by
  rw [Progress.pieces, piecesAround, Node.piecesAll, List.append_nil]
  rfl

theorem Node.plain_element {children : List (Node Css.Selector)}
    (plainTag : tag.getLast? ≠ some '/') (plain : ¬ (lastPart tag attributes).Slashed) :
    (Node.element tag attributes children).Plain := by
  refine ⟨plainTag, fun last isLast => ?_⟩
  rwa [lastPart, Option.mem_def.mp isLast] at plain

mutual
/-- Reading the text of a node with a slash at the end of a tag does not go on to a tree
with this node in its place. -/
theorem not_prefix_of_readFrom_renderWith (config : Config) (prelude : Css.Selector → Text) :
    ∀ (node : Node Css.Selector) (around : List OpenElement) (inside : List (Node Css.Selector))
      (rest : Text) (tree : Node Css.Selector), node.Formed config around.length →
      (∀ below ∈ node.walk, below.isStyle = false) → ¬ (∀ below ∈ node.walk, below.Plain) →
      readFrom config ⟨around, inside⟩ (node.renderWith prelude ++ rest) = .ok tree →
      ¬ Progress.pieces ⟨around, inside⟩ ++ node.pieces <+: tree.pieces
  | .text value, _, _, _, _, _, _, slashed, _ => absurd (by simp [Node.walk, Node.Plain]) slashed
  | .slot script, _, _, _, _, _, _, slashed, _ => absurd (by simp [Node.walk, Node.Plain]) slashed
  | .element tag attributes children, around, inside, rest, tree, formed, noStyle, slashed,
      read => by
      rcases Node.forall_walk_element_iff.mp noStyle with ⟨-, noStyleBelow⟩
      rcases formed with ⟨depth, isTag, isOther, attributed, chain, all⟩
      have opens : Opens config around.length tag attributes := ⟨depth, isTag, isOther, attributed⟩
      rw [Node.renderWith, enclose_append] at read
      rw [Node.pieces]
      by_cases own : (lastPart tag attributes).Slashed
      · exact not_prefix_of_slashed opens own read
      rw [readFrom_openTag opens own] at read
      have meets : ∀ value, children.getLast? = some (.text value) →
          Meets value ('<' :: '/' :: (tag ++ '>' :: rest)) :=
        fun value _ => meets_lessThan value _
      by_cases below : Node.Everywhere Node.Plain children
      · rw [readFrom_of_writesAll config children (⟨tag, attributes, inside⟩ :: around) [] _ _ all
          below chain (writesAll_renderAllWith prelude all below) meets] at read
        have slashedTag : tag.getLast? = some '/' := by
          apply Decidable.byContradiction
          intro plainTag
          exact slashed (Node.forall_walk_element_iff.mpr ⟨Node.plain_element plainTag own, below⟩)
        exact absurd read (readFrom_closeTag_ne_ok isTag slashedTag)
      · have inner := not_prefix_of_readFrom_renderAllWith config prelude children
          (⟨tag, attributes, inside⟩ :: around) [] _ tree all noStyleBelow below chain meets read
        intro asPrinted
        apply inner
        rw [pieces_open]
        refine List.IsPrefix.trans ⟨[.closing], ?_⟩ asPrinted
        simp
  | .style .., _, _, _, _, _, noStyle, _, _ =>
      absurd (noStyle _ List.mem_cons_self) Bool.noConfusion
  | .fragment _, _, _, _, _, formed, _, _, _ => absurd formed not_false
  | .foreign _, _, _, _, _, formed, _, _, _ => absurd formed not_false

theorem not_prefix_of_readFrom_renderAllWith (config : Config) (prelude : Css.Selector → Text) :
    ∀ (nodes : List (Node Css.Selector)) (around : List OpenElement)
      (inside : List (Node Css.Selector)) (rest : Text) (tree : Node Css.Selector),
      FormedAll config around.length nodes →
      Node.Everywhere (fun below => below.isStyle = false) nodes →
      ¬ Node.Everywhere Node.Plain nodes → nodes.IsChain Adjoins →
      (∀ value, nodes.getLast? = some (.text value) → Meets value rest) →
      readFrom config ⟨around, inside⟩ (Node.renderAllWith prelude nodes ++ rest) = .ok tree →
      ¬ Progress.pieces ⟨around, inside⟩ ++ Node.piecesAll nodes <+: tree.pieces
  | [], _, _, _, _, _, _, slashed, _, _, _ => absurd Node.everywhere_nil slashed
  | node :: nodes, around, inside, rest, tree, all, noStyle, slashed, chain, meets, read => by
      rcases Node.everywhere_cons_iff.mp noStyle with ⟨noStyleHere, noStyleAfter⟩
      have furtherMeets : ∀ value, nodes.getLast? = some (.text value) → Meets value rest := by
        intro value last
        apply meets value
        rw [List.getLast?_cons, last]
        rfl
      rw [Node.renderAllWith, List.append_assoc] at read
      by_cases here : ∀ below ∈ node.walk, below.Plain
      · have after : ¬ Node.Everywhere Node.Plain nodes :=
          fun others => slashed (Node.everywhere_cons_iff.mpr ⟨here, others⟩)
        rw [readFrom_of_writes config node around inside _ _ all.1 here
          (writes_renderWith prelude all.1 here) fun value isText =>
            meets_renderAllWith prelude all.2 chain meets isText] at read
        have further := not_prefix_of_readFrom_renderAllWith config prelude nodes around
          (inside ++ [node]) rest tree all.2 noStyleAfter after chain.tail furtherMeets read
        rwa [Progress.pieces, Node.piecesAll_append, Node.piecesAll_singleton, ← List.append_assoc,
          List.append_assoc] at further
      · have first := not_prefix_of_readFrom_renderWith config prelude node around inside _ tree
          all.1 noStyleHere here read
        intro asPrinted
        apply first
        rw [Node.piecesAll, ← List.append_assoc] at asPrinted
        exact (List.prefix_append _ _).trans asPrinted
end

/-! ## Whole trees -/

namespace Node

theorem forall_walk_ofTop_iff {holds : Node Css.Selector → Prop}
    {nodes : List (Node Css.Selector)} (atTop : holds (.fragment nodes)) :
    (∀ below ∈ (ofTop nodes).walk, holds below) ↔ Everywhere holds nodes := by
  unfold ofTop
  split
  · rw [everywhere_cons_iff]
    exact (and_iff_left everywhere_nil).symm
  · rw [walk, List.forall_mem_cons]
    exact and_iff_right atTop

theorem render_ofTop (nodes : List (Node Css.Selector)) :
    (ofTop nodes).render = renderAllWith Css.Selector.render nodes := by
  unfold ofTop render
  split
  · rw [renderAllWith, renderAllWith, List.append_nil]
  · rw [renderWith]

theorem unprintable?_ofTop (nodes : List (Node Css.Selector)) :
    (ofTop nodes).unprintable? Css.Selector.unprintable? =
      unprintableIn? Css.Selector.unprintable? nodes := by
  unfold ofTop
  split
  · rw [unprintableIn?, unprintableIn?, Option.or_none]
  · rw [unprintable?]

mutual
/-- Only sheets and foreign values cannot be printed. -/
theorem unprintable?_eq_none {σ : Type} (config : Config) (prelude : σ → Option Unprintable) :
    ∀ (node : Node σ) (depth : Nat), node.Formed config depth →
      (∀ below ∈ node.walk, below.isStyle = false) → node.unprintable? prelude = none
  | .text _, _, _, _ | .slot _, _, _, _ => by rw [unprintable?]
  | .element _ _ children, depth, ⟨_, _, _, _, _, all⟩, noStyle => by
      rw [unprintable?]
      exact unprintableIn?_eq_none config prelude children (depth + 1) all
        (forall_walk_element_iff.mp noStyle).2
  | .style .., _, _, noStyle => absurd (noStyle _ List.mem_cons_self) Bool.noConfusion
  | .fragment _, _, formed, _ | .foreign _, _, formed, _ => absurd formed not_false

theorem unprintableIn?_eq_none {σ : Type} (config : Config) (prelude : σ → Option Unprintable) :
    ∀ (nodes : List (Node σ)) (depth : Nat), FormedAll config depth nodes →
      Everywhere (fun below => below.isStyle = false) nodes → unprintableIn? prelude nodes = none
  | [], _, _, _ => by rw [unprintableIn?]
  | node :: nodes, depth, all, noStyle => by
      rcases everywhere_cons_iff.mp noStyle with ⟨here, after⟩
      rw [unprintableIn?, unprintable?_eq_none config prelude node depth all.1 here,
        unprintableIn?_eq_none config prelude nodes depth all.2 after]
      rfl
end

end Node

/-- Reading the text of formed nodes at the top gives them back exactly if they are plain. -/
theorem read_renderAllWith_iff {nodes : List (Node Css.Selector)}
    (prelude : Css.Selector → Text) (chain : nodes.IsChain Adjoins)
    (all : FormedAll config 0 nodes)
    (noStyle : Node.Everywhere (fun below => below.isStyle = false) nodes) :
    read config (Node.renderAllWith prelude nodes) = .ok (.ofTop nodes) ↔
      Node.Everywhere Node.Plain nodes := by
  have meets : ∀ value, nodes.getLast? = some (.text value) → Meets value [] :=
    fun _ _ => ⟨.inl rfl, by simp⟩
  rw [read_eq_ok_iff]
  constructor
  · intro reread
    apply Classical.byContradiction
    intro slashed
    rw [← List.append_nil (Node.renderAllWith prelude nodes)] at reread
    have other := not_prefix_of_readFrom_renderAllWith config prelude nodes [] [] [] _ all noStyle
      slashed chain meets reread
    rw [Node.pieces_ofTop] at other
    exact other List.prefix_rfl
  · intro plain
    exact readFrom_start_of_writesAll all chain plain (writesAll_renderAllWith prelude all plain)

theorem forall_plain_iff (noStyle : ∀ attributes sheet, .style attributes sheet ∉ tree.walk) :
    (∀ below ∈ tree.walk, below.Plain) ↔
      ∀ tag attributes children, .element tag attributes children ∈ tree.walk →
        tag.getLast? ≠ some '/' ∧
          ∀ last ∈ attributes.getLast?, last.value = none → last.name.getLast? ≠ some '/' := by
  constructor
  · intro plain tag attributes children member
    rcases plain _ member with ⟨plainTag, plainLast⟩
    exact ⟨plainTag, fun last isLast valueless slash => plainLast last isLast ⟨valueless, slash⟩⟩
  · intro plain below member
    cases below with
    | element tag attributes children =>
        rcases plain tag attributes children member with ⟨plainTag, plainLast⟩
        exact ⟨plainTag, fun last isLast slashed => plainLast last isLast slashed.1 slashed.2⟩
    | style attributes sheet => exact absurd member (noStyle attributes sheet)
    | _ => trivial

/-- A tree without style elements comes back from its text if and only if the name of no tag
ends in a slash and no tag ends in an attribute that has no value and whose name ends in
a slash. -/
theorem read_printed_iff {source : Text} (found : read config source = .ok tree)
    (noStyle : ∀ attributes sheet, .style attributes sheet ∉ tree.walk) :
    ∃ printed, tree.write = .ok printed ∧
      (read config printed = .ok tree ↔
        ∀ tag attributes children, .element tag attributes children ∈ tree.walk →
          tag.getLast? ≠ some '/' ∧
            ∀ last ∈ attributes.getLast?, last.value = none → last.name.getLast? ≠ some '/') := by
  rcases exists_formed_of_read found with ⟨nodes, rfl, chain, all⟩
  have styleFree : Node.Everywhere (fun below => below.isStyle = false) nodes := by
    apply (@Node.forall_walk_ofTop_iff (fun below => below.isStyle = false) nodes rfl).mp
    intro below member
    cases below with
    | style attributes sheet => exact absurd member (noStyle attributes sheet)
    | _ => rfl
  refine ⟨(Node.ofTop nodes).render, ?_, ?_⟩
  · rw [Node.write, Node.unprintable?_ofTop,
      Node.unprintableIn?_eq_none config Css.Selector.unprintable? nodes 0 all styleFree]
  · rw [Node.render_ofTop, read_renderAllWith_iff Css.Selector.render chain all styleFree,
      ← @Node.forall_walk_ofTop_iff Node.Plain nodes trivial, forall_plain_iff noStyle]

theorem read_printed_iff_nested_slash :
    ∃ printed, Node.write (.element "p" [⟨"a", some "\""⟩]
        [.slot "x", .text "y\x7b ", .element "q" [⟨"c/", none⟩] []]) = .ok printed ∧
      (read .standard printed = .ok (.element "p" [⟨"a", some "\""⟩]
          [.slot "x", .text "y\x7b ", .element "q" [⟨"c/", none⟩] []]) ↔
        ∀ (tag : Text) (attributes : List Attribute) (children : List (Node Css.Selector)),
          .element tag attributes children ∈ Node.walk (.element "p" [⟨"a", some "\""⟩]
            [.slot "x", .text "y\x7b ", .element "q" [⟨"c/", none⟩] []]) →
          tag.getLast? ≠ some '/' ∧
            ∀ last ∈ attributes.getLast?, last.value = none → last.name.getLast? ≠ some '/') :=
  @read_printed_iff .standard _ "<p a='\"'> \x7b\x7bx\x7d\x7d y\x7b <q c/ ></q></p>"
    (by decide +kernel) (by simp [Node.walk, Node.walkAll])

end ScopedMarkup.Markup
