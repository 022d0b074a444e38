import ScopedMarkup.Css.Sheet.Reader
import ScopedMarkup.Markup.Error
import ScopedMarkup.Markup.Node

namespace ScopedMarkup.Markup

/-! A source is read in pieces: whole nodes that hold no others, the starts of
elements, and their ends. Each reading function gives what it read together with
the text that is left. -/

/-- What is left does not begin with what is wanted. -/
def Fault.unexpected (text : Text) : Fault :=
  ⟨if text = [] then .unexpectedEnd else .unexpectedToken (Token.first text), text⟩

namespace Token

theorem capture_shortens {stops : Text → Bool} {text : Text} (nonempty : text ≠ [])
    (goesOn : stops text = false) : (capture stops text).2.length < text.length := by
  unfold capture
  simp only [nonempty, goesOn, dite_false, Bool.false_eq_true, if_false]
  exact Nat.lt_of_le_of_lt (capture_suffix stops (rest text)).length_le (rest_length_lt nonempty)

/-- What follows a token that has to be of this kind. -/
def expect (kind : TokenKind) (text : Text) : Except Fault Text :=
  if (first text).kind = kind then .ok (rest text) else .error (.unexpected text)

theorem expect_suffix {kind : TokenKind} {text remaining : Text}
    (read : expect kind text = .ok remaining) : remaining <:+ text := by
  unfold expect at read
  split at read
  · simp only [Except.ok.injEq] at read
    exact read ▸ rest_suffix text
  · simp at read

end Token

/-- The name of a tag or an attribute: words and dots. -/
def readName (text : Text) : Except Fault (Text × Text) :=
  match Token.capture (fun rest => !Token.startsWith [.word, .dot] rest) text with
  | ([], _) => .error (.unexpected text)
  | (first :: name, rest) => .ok (first :: name, rest)

theorem readName_splits {text name rest : Text} (read : readName text = .ok (name, rest)) :
    name ++ rest = text ∧ name ≠ [] := by
  have splits :=
    Token.capture_splits (fun rest => !Token.startsWith [.word, .dot] rest) text
  unfold readName at read
  split at read
  · simp at read
  · rename_i equal
    simp only [Except.ok.injEq, Prod.mk.injEq] at read
    obtain ⟨rfl, rfl⟩ := read
    rw [equal] at splits
    exact ⟨splits, by simp⟩

theorem readName_suffix {text name rest : Text} (read : readName text = .ok (name, rest)) :
    rest <:+ text := ⟨name, (readName_splits read).1⟩

/-- The value of an attribute, between quotes of one kind. -/
def readValue (text : Text) : Except Fault (Text × Text) :=
  let quote := (Token.first text).kind
  if quote = .singleQuote ∨ quote = .doubleQuote then
    let (value, rest) := Token.capture (Token.startsWith [quote]) (Token.rest text)
    (Token.expect quote rest).map (value, ·)
  else .error (.unexpected text)

theorem readValue_suffix {text value rest : Text} (read : readValue text = .ok (value, rest)) :
    rest <:+ text := by
  unfold readValue at read
  simp only at read
  split at read
  · cases closed : Token.expect (Token.first text).kind
        (Token.capture (Token.startsWith [(Token.first text).kind]) (Token.rest text)).2 with
    | error fault => simp [closed, Except.map] at read
    | ok remaining =>
        simp only [closed, Except.map, Except.ok.injEq, Prod.mk.injEq] at read
        exact read.2 ▸ ((Token.expect_suffix closed).trans
          (Token.capture_suffix _ _)).trans (Token.rest_suffix text)
  · simp at read

/-- An attribute: a name, and perhaps an equals sign and a value. -/
def readAttribute (text : Text) : Except Fault (Attribute × Text) :=
  match readName text with
  | .error fault => .error fault
  | .ok (name, rest) =>
      if (Token.first rest).kind = .equals then
        (readValue (Token.rest rest)).map fun (value, following) => (⟨name, some value⟩, following)
      else .ok (⟨name, none⟩, rest)

theorem readAttribute_suffix {text rest : Text} {entry : Attribute}
    (read : readAttribute text = .ok (entry, rest)) :
    rest <:+ text ∧ rest.length < text.length := by
  unfold readAttribute at read
  split at read
  · simp at read
  · rename_i name following named
    have splits := readName_splits named
    have shorter : following.length < text.length := by
      have equal := congrArg List.length splits.1
      have positive := List.length_pos_iff.mpr splits.2
      rw [List.length_append] at equal
      omega
    have follows : rest <:+ following := by
      split at read
      · cases valued : readValue (Token.rest following) with
        | error fault => simp [valued, Except.map] at read
        | ok found =>
            obtain ⟨value, remaining⟩ := found
            simp only [valued, Except.map, Except.ok.injEq, Prod.mk.injEq] at read
            exact read.2 ▸ (readValue_suffix valued).trans (Token.rest_suffix following)
      · simp only [Except.ok.injEq, Prod.mk.injEq] at read
        exact read.2 ▸ List.suffix_refl _
    exact ⟨follows.trans (readName_suffix named), Nat.lt_of_le_of_lt follows.length_le shorter⟩

/-- The end of an open tag: its attributes, whether it closes itself, and what
follows it. -/
structure TagEnd where
  attributes : List Attribute
  closesItself : Bool
  rest : Text
deriving DecidableEq, Repr

/-- The rest of an open tag, whose first attributes have been read. -/
def readAttributes (config : Config) (before : List Attribute) (text : Text) :
    Except Fault TagEnd :=
  let text := text.trimStart
  match (Token.first text).kind with
  | .selfClose => .ok ⟨before, true, Token.rest text⟩
  | .greaterThan => .ok ⟨before, false, Token.rest text⟩
  | _ =>
      match _read : readAttribute text with
      | .error fault => .error fault
      | .ok (entry, rest) =>
          if config.strict && before.any (·.name = entry.name) then
            .error ⟨.duplicateAttribute entry.name, text⟩
          else readAttributes config (before ++ [entry]) rest
termination_by text.length
decreasing_by
  exact Nat.lt_of_lt_of_le (readAttribute_suffix _read).2
    (List.dropWhile_suffix isBlank).length_le

theorem readAttributes_suffix {config : Config} {before : List Attribute} {text : Text}
    {found : TagEnd} (read : readAttributes config before text = .ok found) :
    found.rest <:+ text := by
  fun_induction readAttributes config before text with
  | case1 before text trimmed =>
      simp only [Except.ok.injEq] at read
      exact read ▸ (Token.rest_suffix trimmed).trans (List.dropWhile_suffix isBlank)
  | case2 before text trimmed =>
      simp only [Except.ok.injEq] at read
      exact read ▸ (Token.rest_suffix trimmed).trans (List.dropWhile_suffix isBlank)
  | case3 => simp at read
  | case4 => simp at read
  | case5 before text trimmed entry rest readOne _ _ _ induction =>
      exact ((induction read).trans (readAttribute_suffix readOne).1).trans
        (List.dropWhile_suffix isBlank)

/-- What follows a closing tag, read from behind its mark. Strict reading wants
the name of the open tag in it. -/
def readClosing (config : Config) (tag : Text) (text : Text) : Except Fault Text :=
  match readName text with
  | .error fault => .error fault
  | .ok (name, rest) =>
      match Token.expect .greaterThan rest.trimStart with
      | .error fault => .error fault
      | .ok following =>
          if config.strict && name ≠ tag then .error ⟨.mismatchedClose name tag, text⟩
          else .ok following

theorem readClosing_suffix {config : Config} {tag text rest : Text}
    (read : readClosing config tag text = .ok rest) : rest <:+ text := by
  unfold readClosing at read
  split at read
  · simp at read
  · rename_i name following named
    split at read
    · simp at read
    · rename_i remaining closed
      split at read
      · simp at read
      · simp only [Except.ok.injEq] at read
        exact read ▸ ((Token.expect_suffix closed).trans
          (List.dropWhile_suffix isBlank)).trans (readName_suffix named)

inductive Piece where
  | whole (node : Node Css.Selector)
  | opening (tag : Text) (attributes : List Attribute)
  | closing
deriving DecidableEq, Repr

/-- The style element whose body begins here. The body ends before the first
closing tag with the word `style`, also inside a quoted run. It is read as a
sheet once its closing tag has been read. -/
def readStyle (config : Config) (attributes : List Attribute) (text : Text) :
    Except Fault (Piece × Text) :=
  let (body, rest) := Token.capture (Token.startsClosing "style") text
  match Token.expect .closeTag rest with
  | .error fault => .error fault
  | .ok following =>
      match readClosing config "style" following with
      | .error fault => .error fault
      | .ok remaining =>
          match Css.Sheet.read config body with
          | .error error => .error ⟨.invalidStyle error.reason, text.drop error.place.index⟩
          | .ok sheet => .ok (.whole (.style attributes sheet), remaining)

theorem readStyle_suffix {config : Config} {attributes : List Attribute} {text rest : Text}
    {piece : Piece} (read : readStyle config attributes text = .ok (piece, rest)) :
    rest <:+ text := by
  unfold readStyle at read
  simp only at read
  split at read
  · simp at read
  · rename_i following opened
    split at read
    · simp at read
    · rename_i remaining closed
      split at read
      · simp at read
      · simp only [Except.ok.injEq, Prod.mk.injEq] at read
        exact read.2 ▸ ((readClosing_suffix closed).trans (Token.expect_suffix opened)).trans
          (Token.capture_suffix _ _)

/-- What begins behind the mark of an open tag. -/
def readElement (config : Config) (text : Text) : Except Fault (Piece × Text) :=
  match readName text with
  | .error fault => .error fault
  | .ok (tag, rest) =>
      match readAttributes config [] rest with
      | .error fault => .error fault
      | .ok ⟨attributes, closesItself, following⟩ =>
          if tag = "style" then
            if closesItself then .ok (.whole (.style attributes {}), following)
            else readStyle config attributes following
          else if closesItself then .ok (.whole (.element tag attributes []), following)
          else .ok (.opening tag attributes, following)

theorem readElement_suffix {config : Config} {text rest : Text} {piece : Piece}
    (read : readElement config text = .ok (piece, rest)) : rest <:+ text := by
  unfold readElement at read
  split at read
  · simp at read
  · rename_i tag afterName named
    split at read
    · simp at read
    · rename_i attributes closesItself following ended
      have known := (readAttributes_suffix ended).trans (readName_suffix named)
      split at read
      · split at read
        · simp only [Except.ok.injEq, Prod.mk.injEq] at read
          exact read.2 ▸ known
        · exact (readStyle_suffix read).trans known
      · split at read <;>
          (simp only [Except.ok.injEq, Prod.mk.injEq] at read
           exact read.2 ▸ known)

/-- The next piece of a text that does not begin with a blank, inside elements
with these tags, the innermost first. -/
def readPiece (config : Config) (openTags : List Text) (text : Text) :
    Except Fault (Piece × Text) :=
  match (Token.first text).kind with
  | .slotOpen =>
      let (script, rest) := Token.capture (Token.startsWith [.slotClose]) (Token.rest text)
      (Token.expect .slotClose rest).map (.whole (.slot script), ·)
  | .lessThan =>
      if openTags.length ≥ config.maxDepth then
        .error ⟨.nestingTooDeep config.maxDepth, text⟩
      else readElement config (Token.rest text)
  | .closeTag =>
      match openTags with
      | [] => .error (.unexpected text)
      | tag :: _ => (readClosing config tag (Token.rest text)).map (.closing, ·)
  | _ =>
      let (value, rest) :=
        Token.capture (Token.startsWith [.slotOpen, .lessThan, .closeTag]) text
      .ok (.whole (.text value), rest)

theorem readPiece_shortens {config : Config} {openTags : List Text} {text rest : Text}
    {piece : Piece} (nonempty : text ≠ [])
    (read : readPiece config openTags text = .ok (piece, rest)) : rest.length < text.length := by
  have shorter := Token.rest_length_lt nonempty
  unfold readPiece at read
  split at read
  · simp only at read
    cases closed : Token.expect .slotClose
        (Token.capture (Token.startsWith [.slotClose]) (Token.rest text)).2 with
    | error fault => simp [closed, Except.map] at read
    | ok remaining =>
        simp only [closed, Except.map, Except.ok.injEq, Prod.mk.injEq] at read
        exact Nat.lt_of_le_of_lt (read.2 ▸ ((Token.expect_suffix closed).trans
          (Token.capture_suffix _ _)).length_le) shorter
  · split at read
    · simp at read
    · exact Nat.lt_of_le_of_lt (readElement_suffix read).length_le shorter
  · split at read
    · simp at read
    · rename_i tag _
      cases closed : readClosing config tag (Token.rest text) with
      | error fault => simp [closed, Except.map] at read
      | ok remaining =>
          simp only [closed, Except.map, Except.ok.injEq, Prod.mk.injEq] at read
          exact Nat.lt_of_le_of_lt (read.2 ▸ (readClosing_suffix closed).length_le) shorter
  · rename_i noSlot noOpening noClosing
    simp only [Except.ok.injEq, Prod.mk.injEq] at read
    refine read.2 ▸ Token.capture_shortens nonempty ?_
    simp only [Token.startsWith, List.contains_eq_mem, List.mem_cons, List.not_mem_nil, or_false,
      decide_eq_false_iff_not, not_or]
    exact ⟨fun equal => noSlot equal, fun equal => noOpening equal, fun equal => noClosing equal⟩

end ScopedMarkup.Markup
