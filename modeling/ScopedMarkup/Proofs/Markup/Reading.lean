import ScopedMarkup.Proofs.Markup.Run
import ScopedMarkup.Proofs.Markup.Tag

/-! # What reading a source gives

Each piece that is read has the form of what it stands for, and what has been put
together stays formed, together with how it meets the text that is left.
-/

namespace ScopedMarkup.Markup

open Node (Adjoins FormedAll)

variable {config : Config} {text rest value : Text} {openTags : List Text} {piece : Piece}

/-! ## Pieces -/

/-- How a run of text meets what follows it. -/
structure Meets (value text : Text) : Prop where
  stops : Token.Stops Token.endsText text
  apart : ¬ (value.getLast? = some '{' ∧ text.head? = some '{')

/-- What an open tag was read from can be opened inside so many elements. -/
structure Opens (config : Config) (depth : Nat) (tag : Text) (attributes : List Attribute) :
    Prop where
  inside : depth < config.maxDepth
  isTag : IsTag tag
  isOther : tag ≠ "style"
  formed : FormedAttributes config attributes

/-- The form of a piece inside so many elements. -/
def Piece.Formed (config : Config) (depth : Nat) : Piece → Prop
  | .whole node => node.Formed config depth
  | .opening tag attributes => Opens config depth tag attributes
  | .closing => 0 < depth

theorem Opens.formed_element {depth : Nat} {tag : Text} {attributes : List Attribute}
    {children : List (Node Css.Selector)} (opens : Opens config depth tag attributes)
    (chain : children.IsChain Adjoins) (all : FormedAll config (depth + 1) children) :
    (Node.element tag attributes children).Formed config depth :=
  ⟨opens.inside, opens.isTag, opens.isOther, opens.formed, chain, all⟩

/-- The pieces that begin with an open tag. -/
inductive Piece.OfTag (config : Config) (depth : Nat) : Piece → Prop where
  | opening {tag : Text} {attributes : List Attribute} :
      Opens config depth tag attributes → OfTag config depth (.opening tag attributes)
  | empty {tag : Text} {attributes : List Attribute} :
      Opens config depth tag attributes → OfTag config depth (.whole (.element tag attributes []))
  | style {attributes : List Attribute} {sheet : Css.Sheet Css.Selector} :
      depth < config.maxDepth → FormedAttributes config attributes →
        OfTag config depth (.whole (.style attributes sheet))

theorem isTag_of_readName {tag : Text} (opens : text.head? ≠ some '/')
    (named : readName text = .ok (tag, rest)) : IsTag tag := by
  rcases readName_eq_ok_iff.mp named with ⟨rfl, nonempty, goesOn, -⟩
  refine ⟨isName_of_goesOn nonempty goesOn, fun isHead => opens ?_⟩
  rw [List.head?_append, isHead]
  rfl

theorem ofTag_of_readElement {depth : Nat} (inside : depth < config.maxDepth)
    (opens : text.head? ≠ some '/') (read : readElement config text = .ok (piece, rest)) :
    piece.OfTag config depth := by
  have formed {afterName : Text} {found : TagEnd}
      (ended : readAttributes config [] afterName = .ok found) :
      FormedAttributes config found.attributes :=
    formed_of_readAttributes ended (FormedAttributes.nil config)
  cases elementRead_of_readElement read with
  | emptyStyle _ ended => exact .style inside (formed ended)
  | style _ ended => exact .style inside (formed ended)
  | empty named isOther ended =>
      exact .empty ⟨inside, isTag_of_readName opens named, isOther, formed ended⟩
  | opening named isOther ended =>
      exact .opening ⟨inside, isTag_of_readName opens named, isOther, formed ended⟩

/-- The expression of a slot ends where its braces are closed. -/
theorem isScript_of_capture {script following : Text}
    (captured : Token.capture Token.endsScript text = (script, following))
    (closed : Token.expect .slotClose following = .ok rest) : IsScript script := by
  rcases (Token.capture_eq_iff Token.aligned_endsScript).mp captured with ⟨-, goesOn, -⟩
  rcases Token.goesOn_script_iff.mp goesOn with ⟨noEnd, ends⟩
  have follows := (Token.expect_eq_ok_iff (by decide) (by decide)).mp closed
  refine ⟨noEnd, fun last => ends ⟨last, ?_⟩⟩
  rw [follows]
  rfl

theorem head?_of_slotOpen (opening : (Token.first text).kind = .slotOpen) :
    text.head? = some '{' := by
  rw [Token.kind_first] at opening
  rcases opening ▸ Token.sign_kindAt_prefix text with ⟨more, rfl⟩
  rfl

/-- A run of text goes up to the first mark behind it. -/
theorem isTextRun_of_capture (leaves : text.Leaves isBlank)
    (goesOnHere : ¬ Token.Stops Token.endsText text)
    (captured : Token.capture Token.endsText text = (value, rest)) :
    IsTextRun value ∧ Meets value rest := by
  rcases (Token.capture_eq_iff Token.aligned_endsText).mp captured with ⟨split, goesOn, stops⟩
  rcases Token.goesOn_text_iff.mp goesOn with ⟨noTag, noSlot, apart⟩
  refine ⟨⟨?_, ?_, noTag, noSlot⟩, stops, apart⟩
  · rintro rfl
    rw [split, List.nil_append] at goesOnHere
    exact goesOnHere stops
  · intro first isHead
    apply leaves first
    rw [split, List.head?_append, Option.mem_def.mp isHead]
    rfl

/-- What each piece is read from. -/
theorem readPiece_cases (nonempty : text ≠ []) (leaves : text.Leaves isBlank)
    (read : readPiece config openTags text = .ok (piece, rest)) :
    (∃ script, piece = .whole (.slot script) ∧ IsScript script ∧ text.head? = some '{') ∨
    piece.OfTag config openTags.length ∨ (piece = .closing ∧ openTags ≠ []) ∨
    ∃ value, piece = .whole (.text value) ∧ IsTextRun value ∧ Meets value rest ∧
      ¬ Token.Stops Token.endsText text := by
  cases pieceRead_of_readPiece read with
  | slot opening closed =>
      exact .inl ⟨_, rfl, isScript_of_capture rfl closed, head?_of_slotOpen opening⟩
  | element lessThan shallow element =>
      rw [Token.kind_first] at lessThan
      exact .inr (.inl (ofTag_of_readElement shallow
        (Token.exists_of_kindAt_lessThan lessThan).2 element))
  | closing _ opened _ =>
      rw [opened]
      exact .inr (.inr (.inl ⟨rfl, List.cons_ne_nil _ _⟩))
  | text goesOn =>
      have goesOnHere : ¬ Token.Stops Token.endsText text := by
        rintro (empty | ends)
        · exact nonempty empty
        · exact Bool.false_ne_true (goesOn.symm.trans ends)
      rcases isTextRun_of_capture leaves goesOnHere rfl with ⟨isRun, meets⟩
      exact .inr (.inr (.inr ⟨_, rfl, isRun, meets, goesOnHere⟩))

theorem formed_of_readPiece (nonempty : text ≠ []) (leaves : text.Leaves isBlank)
    (read : readPiece config openTags text = .ok (piece, rest)) :
    piece.Formed config openTags.length := by
  rcases readPiece_cases nonempty leaves read with
    ⟨script, rfl, isScript, -⟩ | ofTag | ⟨rfl, opened⟩ | ⟨value, rfl, isRun, -⟩
  · exact isScript
  · cases ofTag with
    | opening opens => exact opens
    | empty opens => exact opens.formed_element List.isChain_nil trivial
    | style inside formed => exact ⟨inside, formed⟩
  · exact List.length_pos_iff.mpr opened
  · exact isRun

theorem meets_of_readPiece (nonempty : text ≠ []) (leaves : text.Leaves isBlank)
    (read : readPiece config openTags text = .ok (.whole (.text value), rest)) :
    Meets value rest := by
  rcases readPiece_cases nonempty leaves read with
    ⟨script, equal, -⟩ | ofTag | ⟨equal, -⟩ | ⟨other, equal, -, meets, -⟩
  · cases equal
  · cases ofTag
  · cases equal
  · cases equal
    exact meets

/-- A node that was read can stand behind the run of text before it. -/
theorem adjoins_of_readPiece {node : Node Css.Selector} (nonempty : text ≠ [])
    (leaves : text.Leaves isBlank) (meets : Meets value text)
    (read : readPiece config openTags text = .ok (.whole node, rest)) :
    Adjoins (.text value) node := by
  rcases readPiece_cases nonempty leaves read with
    ⟨script, equal, -, opens⟩ | ofTag | ⟨equal, -⟩ | ⟨other, equal, -, -, goesOn⟩
  · cases equal
    exact fun last => meets.apart ⟨last, opens⟩
  · cases ofTag <;> trivial
  · cases equal
  · exact absurd meets.stops goesOn

/-! ## What reading has come to -/

/-- Every open element can hold more nodes. -/
def FormedAround (config : Config) : List OpenElement → Prop
  | [] => True
  | outer :: around =>
      Opens config around.length outer.tag outer.attributes ∧ outer.before.IsChain Adjoins ∧
        FormedAll config around.length outer.before ∧ FormedAround config around

structure Progress.Formed (config : Config) (progress : Progress) (text : Text) : Prop where
  around : FormedAround config progress.around
  chain : progress.inside.IsChain Adjoins
  inside : FormedAll config progress.around.length progress.inside
  meets : ∀ value, progress.inside.getLast? = some (.text value) → Meets value text

theorem Progress.formed_start (config : Config) (text : Text) :
    Progress.start.Formed config text :=
  ⟨trivial, List.isChain_nil, trivial, by simp [Progress.start]⟩

/-- No blank follows a run of text. -/
theorem Meets.trimStart (meets : Meets value text) : text.trimStart = text := by
  apply Text.trimStart_eq_of_leaves
  intro first isHead
  rcases meets.stops with rfl | ends
  · cases isHead
  · rcases Token.endsText_iff.mp ends with tag | ⟨more, rfl⟩
    · rw [tag] at isHead
      cases isHead
      decide
    · cases isHead
      decide

theorem Progress.Formed.trimStart {progress : Progress} (formed : progress.Formed config text) :
    progress.Formed config text.trimStart where
  around := formed.around
  chain := formed.chain
  inside := formed.inside
  meets value last := by
    have meets := formed.meets value last
    rwa [meets.trimStart]

theorem Node.adjoins_element {σ : Type} (node : Node σ) (tag : Text)
    (attributes : List Attribute) (children : List (Node σ)) :
    node.Adjoins (.element tag attributes children) := by
  cases node <;> trivial

/-- Each piece keeps what has been read formed. -/
theorem Progress.Formed.add {progress : Progress} (formed : progress.Formed config text)
    (nonempty : text ≠ []) (leaves : text.Leaves isBlank)
    (read : readPiece config progress.openTags text = .ok (piece, rest)) :
    (progress.add piece).Formed config rest := by
  have isFormed : piece.Formed config progress.around.length := by
    have own := formed_of_readPiece nonempty leaves read
    rwa [Progress.openTags, List.length_map] at own
  rcases progress with ⟨around, inside⟩
  cases piece with
  | whole node =>
      refine ⟨formed.around, ?_, Node.formedAll_append_iff.mpr ⟨formed.inside, isFormed⟩, ?_⟩
      · refine List.isChain_append.mpr ⟨formed.chain, List.isChain_singleton node, ?_⟩
        intro last isLast following isNext
        cases isNext
        cases last with
        | text value => exact adjoins_of_readPiece nonempty leaves (formed.meets value isLast) read
        | _ => trivial
      · intro value last
        cases (List.getLast?_concat.symm.trans last)
        exact meets_of_readPiece nonempty leaves read
  | opening tag attributes =>
      exact ⟨⟨isFormed, formed.chain, formed.inside, formed.around⟩, List.isChain_nil, trivial,
        by simp [Progress.add]⟩
  | closing =>
      cases around with
      | nil => cases isFormed
      | cons outer around =>
          rcases formed.around with ⟨opens, chain, before, further⟩
          refine ⟨further, ?_, ?_, ?_⟩
          · refine List.isChain_append.mpr ⟨chain, List.isChain_singleton _, ?_⟩
            intro last _ following isNext
            cases isNext
            exact last.adjoins_element ..
          · exact Node.formedAll_append_iff.mpr
              ⟨before, opens.formed_element formed.chain formed.inside⟩
          · intro value last
            cases (List.getLast?_concat.symm.trans last)

/-- All that reading comes to is formed. -/
theorem Reached.formed {source : Text} {progress : Progress}
    (reached : Reached config source progress text) : progress.Formed config text := by
  induction reached with
  | start => exact Progress.formed_start config source
  | @piece progress text _ _ _ nonempty readOne induction =>
      exact induction.trimStart.add nonempty (Text.leaves_dropWhile isBlank text) readOne

/-- The nodes at the top of a tree that was read. -/
theorem exists_formed_of_read {source : Text} {tree : Node Css.Selector}
    (found : read config source = .ok tree) :
    ∃ nodes, tree = .ofTop nodes ∧ nodes.IsChain Adjoins ∧ FormedAll config 0 nodes := by
  rcases exists_reached_of_read found with ⟨last, rest, reached, closed, equal⟩
  have formed := reached.formed
  have inside := formed.inside
  rw [closed] at inside
  exact ⟨last.inside, equal, formed.chain, inside⟩

end ScopedMarkup.Markup
