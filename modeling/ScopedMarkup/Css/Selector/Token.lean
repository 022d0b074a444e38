import ScopedMarkup.Css.Error
import ScopedMarkup.Css.Name
import ScopedMarkup.Css.Selector.Basic

namespace ScopedMarkup.Css.Selector

/-! A selector is read as tokens. Blanks have a meaning of their own between
two compounds, so nothing is skipped; the signs of the other combinators, the
comma and the closing parenthesis take the blanks around them along. -/

inductive Terminal where
  | negationOpen
  | function
  | adjacent
  | child
  | comma
  | sibling
  | negationClose
  | attribute
  | className
  | pseudo
  | type
  | id
  | descendant
  | any
deriving DecidableEq, Repr

namespace Terminal

/-- All terminals, in the order in which the lexer made from the grammar tries them. -/
def all : List Terminal :=
  [.negationOpen, .function, .adjacent, .child, .comma, .sibling, .negationClose, .attribute,
    .className, .pseudo, .type, .id, .descendant, .any]

/-- The terminals that a compound begins with, in the same order. -/
def opening : List Terminal :=
  [.negationOpen, .function, .attribute, .className, .pseudo, .type, .id, .any]

/-- A colon or two, and a name that may begin with a hyphen. -/
def pseudoScanner : Scanner :=
  (Scanner.literal "::" <|> Scanner.literal ":") ++
    .character (fun first => startsName first || first = '-') ++ .run continuesName

/-- A sign with the blanks around it. -/
def padded (sign : Char) : Scanner := .blanks ++ .literal [sign] ++ .blanks

/-- A parenthesis with no further one in it. -/
def innerParenthesis : Scanner :=
  .literal "(" ++ .many (quotedOrOutside "()\"'") ++ .literal ")"

def scanner : Terminal → Scanner
  | .negationOpen => .literal ":" ++ .caseless "not" ++ .literal "(" ++ .blanks
  | .function =>
      pseudoScanner ++ .literal "(" ++
        .many (innerParenthesis <|> quotedOrOutside "()\"'") ++ .literal ")"
  | .adjacent => padded '+'
  | .child => padded '>'
  | .comma => padded ','
  | .sibling => padded '~'
  | .negationClose => .blanks ++ .literal ")"
  | .attribute => .literal "[" ++ .many (quotedOrOutside "]\"'") ++ .literal "]"
  | .className => .literal "." ++ .optional (.literal "-") ++ name
  | .pseudo => pseudoScanner
  | .type => name
  | .id => .literal "#" ++ .character continuesName ++ .run continuesName
  | .descendant => .character isBlank ++ .blanks
  | .any => .literal "*"

/-- Whether a compound has to begin after this terminal. -/
def leadsCompound : Terminal → Bool
  | .negationOpen | .adjacent | .child | .comma | .sibling | .descendant => true
  | _ => false

end Terminal

inductive Token where
  | simple (part : Simple)
  /-- Between square brackets, but no attribute selector. -/
  | malformed (text : Text)
  | combinator (combinator : Combinator)
  | comma
  | negationOpen
  | negationClose
deriving DecidableEq, Repr

namespace Token

/-- The name of an attribute ends at a blank and at these characters. -/
def endsAttributeName (character : Char) : Bool :=
  isBlank character || ("~|^$*=]" : Text).contains character

/-- The attribute selector that stands between square brackets: a name, and
perhaps an operator and a value. -/
def attribute? (brackets : Text) : Option Simple :=
  let inner := Text.trimStart (brackets.drop 1).dropLast
  let name := inner.takeWhile fun found => !endsAttributeName found
  let rest := inner.dropWhile fun found => !endsAttributeName found
  if name = [] then none
  else match Text.trimStart rest with
    | [] => some (.attribute name none none)
    | '=' :: value => some (.attribute name (some ['=']) (some (Text.trim value)))
    | sign :: '=' :: value =>
        if ("~|^$*" : Text).contains sign then
          some (.attribute name (some [sign, '=']) (some (Text.trim value)))
        else none
    | _ => none

example : attribute? "[ a ^= \"b\" ]" =
    some (.attribute "a" (some "^=") (some "\"b\"")) := by decide

example : attribute? "[a b]" = none := by decide

/-- The colons of a pseudo, and what follows them. -/
def splitColons : Text → Text × Text
  | ':' :: ':' :: rest => ([':', ':'], rest)
  | text => (text.take 1, text.drop 1)

/-- The pseudo with its name apart from its colons. -/
def pseudo (text : Text) : Simple :=
  let (separator, name) := splitColons text
  .pseudo separator name

/-- The functional pseudo with its argument, which ends at the last
parenthesis. -/
def function (text : Text) : Simple :=
  let (separator, rest) := splitColons text
  .function separator (rest.takeWhile (· ≠ '('))
    (Text.trim ((rest.dropWhile (· ≠ '(')).drop 1).dropLast)

example : function "::b(2n + (1) )" = .function "::" "b" "2n + (1)" := by decide

/-- The token that a terminal makes of the text it recognised. -/
def ofTerminal : Terminal → Text → Token
  | .negationOpen, _ => .negationOpen
  | .function, text => .simple (function text)
  | .adjacent, _ => .combinator .adjacent
  | .child, _ => .combinator .child
  | .comma, _ => .comma
  | .sibling, _ => .combinator .sibling
  | .negationClose, _ => .negationClose
  | .attribute, text =>
      match attribute? text with
      | some part => .simple part
      | none => .malformed text
  | .className, text => .simple (.className (text.drop 1))
  | .pseudo, text => .simple (pseudo text)
  | .type, text => .simple (.type text)
  | .id, text => .simple (.id (text.drop 1))
  | .descendant, _ => .combinator .descendant
  | .any, _ => .simple .any

/-- The text between square brackets, if it is no attribute selector. -/
def malformed? : Token → Option Text
  | .malformed text => some text
  | _ => none

end Token

/-! Reading tokens also decides whether they fit: a compound is wanted at the
start, after a combinator, after a comma and after the start of a negation; a
negation that closes has to be open; and all negations are closed at the end.

The rest is as in `Css.Sheet.rulesFrom`: where no terminal fits, all are tried, and
the error of a text that ends too early stands where its last token begins. -/

/-- What reading a selector has come to: whether a compound has to begin, how
many negations are open, and the text from the last token on. -/
structure Progress where
  compoundWanted : Bool
  openNegations : Nat
  lastToken : Text
deriving DecidableEq, Repr

namespace Progress

def start (text : Text) : Progress := ⟨true, 0, text⟩

def candidates (progress : Progress) : List Terminal :=
  if progress.compoundWanted then Terminal.opening else Terminal.all

/-- The progress after a terminal, unless it closes a negation where none is
open. -/
def advance? (progress : Progress) (terminal : Terminal) (text : Text) : Option Progress :=
  match terminal with
  | .negationOpen => some ⟨true, progress.openNegations + 1, text⟩
  | .negationClose =>
      if progress.openNegations = 0 then none
      else some ⟨false, progress.openNegations - 1, text⟩
  | terminal => some ⟨terminal.leadsCompound, progress.openNegations, text⟩

/-- Whether a selector may end here. -/
def complete (progress : Progress) : Bool :=
  !progress.compoundWanted && progress.openNegations = 0

end Progress

def tokensFrom (progress : Progress) (text : Text) : Except Fault (List Token) :=
  if text = [] then
    if progress.complete then .ok [] else .error ⟨.unexpectedEnd, progress.lastToken⟩
  else
    match _found : Scanner.firstMatch? Terminal.scanner text progress.candidates with
    | none => .error ⟨.unexpected Terminal.scanner Terminal.all text, text⟩
    | some found =>
        match progress.advance? found.kind text with
        | none => .error ⟨.unexpectedText found.piece, text⟩
        | some next =>
            (tokensFrom next found.rest).map (Token.ofTerminal found.kind found.piece :: ·)
termination_by text.length
decreasing_by exact Scanner.rest_length_lt_of_firstMatch? _found

def tokens (text : Text) : Except Fault (List Token) := tokensFrom (.start text) text

end ScopedMarkup.Css.Selector
