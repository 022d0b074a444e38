import ScopedMarkup.Css.Nesting
import ScopedMarkup.Css.Selector.Reader
import ScopedMarkup.Css.Sheet.Basic
import ScopedMarkup.Css.Sheet.Terminal

namespace ScopedMarkup.Css.Sheet

/-! A sheet is read piece by piece. What may come next depends on what came
before; only the terminals that may come next are tried. The preludes of style
rules are read as selectors after the whole sheet has been read.

The grammar leaves some things to the parser that runs it, and this one is taken to
do the following. Where none of the terminals that may come next matches, all of
them are tried, to name what stands there. And the error of a text that ends too
early stands where its last piece begins. -/

/-- A raw piece of a sheet with the index where it starts. -/
structure Lexeme where
  text : Text
  index : Nat
deriving DecidableEq, Repr

/-- What stands before a block. -/
inductive Head where
  | conditional (clause : Conditional) (condition : Text)
  | keyframes (keyword name : Text)
  | keyframe (key : Text)
  | fontFace
  | page (selector : Text)
  | style (prelude : Lexeme)
deriving DecidableEq, Repr

/-- What has been read of the inside of a block, or of the sheet. -/
structure Body where
  rules : List (Rule Lexeme)
  frames : List Keyframe
  declarations : List Declaration
deriving DecidableEq, Repr

namespace Body

def empty : Body := ⟨[], [], []⟩

def addRule (body : Body) (rule : Rule Lexeme) : Body :=
  { body with rules := body.rules ++ [rule] }

def addFrame (body : Body) (frame : Keyframe) : Body :=
  { body with frames := body.frames ++ [frame] }

def addDeclaration (body : Body) (declaration : Declaration) : Body :=
  { body with declarations := body.declarations ++ [declaration] }

/-- The body around a block once the block is closed. -/
def addBlock (body : Body) (head : Head) (inner : Body) : Body :=
  match head with
  | .conditional clause condition => body.addRule (.conditional clause condition inner.rules)
  | .keyframes keyword name => body.addRule (.keyframes keyword name inner.frames)
  | .keyframe key => body.addFrame ⟨key, inner.declarations⟩
  | .fontFace => body.addRule (.fontFace inner.declarations)
  | .page selector => body.addRule (.page selector inner.declarations)
  | .style prelude => body.addRule (.style prelude inner.declarations)

end Body

/-- What may come next. -/
inductive Awaited where
  | rule
  | charsetValue
  | nameSpaceValue
  | ruleEnd
  | condition (clause : Conditional)
  | keyframesName (keyword : Text)
  | frame
  | pageSelector
  | block (head : Head)
  | declaration
  | colon (name : Text)
  | value (name : Text)
  | declarationEnd
deriving DecidableEq, Repr

/-- What a piece does where it is awaited. -/
inductive Move where
  | await (next : Awaited)
  | add (rule : Rule Lexeme)
  | declare (declaration : Declaration)
  | enter (head : Head)
  | leave
deriving DecidableEq, Repr

/-- What is awaited at the start of a block. -/
def Head.inside : Head → Awaited
  | .conditional .. => .rule
  | .keyframes .. => .frame
  | .keyframe _ | .fontFace | .page _ | .style _ => .declaration

namespace Awaited

/-- The grammar of sheets: the terminals that may come next, and what the piece
that such a terminal recognises does. -/
def move? : Awaited → Terminal → Option (Lexeme → Move)
  | .rule, .prelude => some fun piece => .await (.block (.style piece))
  | .rule, .keyframesKeyword => some fun piece => .await (.keyframesName piece.text)
  | .rule, .documentKeyword => some fun piece => .await (.condition (.document piece.text))
  | .rule, .nameSpaceKeyword => some fun _ => .await .nameSpaceValue
  | .rule, .fontFaceKeyword => some fun _ => .await (.block .fontFace)
  | .rule, .supportsKeyword => some fun _ => .await (.condition .supports)
  | .rule, .charsetKeyword => some fun _ => .await .charsetValue
  | .rule, .mediaKeyword => some fun _ => .await (.condition .media)
  | .rule, .pageKeyword => some fun _ => .await .pageSelector
  | .rule, .closeBrace => some fun _ => .leave
  | .charsetValue, .string => some fun piece => .add (.charset piece.text)
  | .nameSpaceValue, .prelude => some fun piece => .add (.nameSpace (clean piece.text))
  | .ruleEnd, .semicolon => some fun _ => .await .rule
  | .condition clause, .prelude =>
      some fun piece => .await (.block (.conditional clause (clean piece.text)))
  | .keyframesName keyword, .prelude =>
      some fun piece => .await (.block (.keyframes keyword (clean piece.text)))
  | .frame, .prelude => some fun piece => .await (.block (.keyframe (clean piece.text)))
  | .frame, .closeBrace => some fun _ => .leave
  | .pageSelector, .prelude => some fun piece => .await (.block (.page (clean piece.text)))
  | .pageSelector, .openBrace => some fun _ => .enter (.page [])
  | .block head, .openBrace => some fun _ => .enter head
  | .declaration, .property => some fun piece => .await (.colon piece.text)
  | .declaration, .semicolon => some fun _ => .await .declaration
  | .declaration, .closeBrace => some fun _ => .leave
  | .colon name, .colon => some fun _ => .await (.value name)
  | .value name, .value => some fun piece => .declare ⟨name, piece.text.trim⟩
  | .declarationEnd, .semicolon => some fun _ => .await .declaration
  | .declarationEnd, .closeBrace => some fun _ => .leave
  | _, _ => none

/-- The terminals that may come next, in the order in which they are tried,
with what they do. -/
def candidates (awaited : Awaited) : List (Terminal × (Lexeme → Move)) :=
  Terminal.all.filterMap fun terminal =>
    (awaited.move? terminal).map fun move => (terminal, move)

end Awaited

/-- What reading a sheet has come to: what is awaited, the blocks that are open
with what was read around them, the innermost first, what was read inside, and
the text from the last piece on. -/
structure Progress where
  awaited : Awaited
  around : List (Head × Body)
  inside : Body
  lastPiece : Text
deriving DecidableEq, Repr

namespace Progress

def start (text : Text) : Progress := ⟨.rule, [], .empty, text⟩

/-- What is awaited after a block that stood directly in these. -/
def resumed : List (Head × Body) → Awaited
  | [] => .rule
  | (head, _) :: _ => head.inside

/-- The progress after a move with the piece at this text, unless it leaves a
block where none is open. -/
def advance? (progress : Progress) (text : Text) : Move → Option Progress
  | .await next => some { progress with awaited := next, lastPiece := text }
  | .add rule => some ⟨.ruleEnd, progress.around, progress.inside.addRule rule, text⟩
  | .declare declaration =>
      some ⟨.declarationEnd, progress.around, progress.inside.addDeclaration declaration, text⟩
  | .enter head => some ⟨head.inside, (head, progress.inside) :: progress.around, .empty, text⟩
  | .leave =>
      match progress.around with
      | [] => none
      | (head, body) :: around =>
          some ⟨resumed around, around, body.addBlock head progress.inside, text⟩

/-- Whether a sheet may end here. -/
def complete (progress : Progress) : Bool :=
  progress.awaited = .rule && progress.around.isEmpty

end Progress

/-- The rules of a sheet, read from a text that is the rest of it. -/
def rulesFrom (source : Text) (progress : Progress) (text : Text) :
    Except Fault (List (Rule Lexeme)) :=
  let rest := skipGap text
  if rest = [] then
    if progress.complete then .ok progress.inside.rules
    else .error ⟨.unexpectedEnd, progress.lastPiece⟩
  else
    match _found : Scanner.firstMatch? (fun candidate => candidate.1.scanner) rest
        progress.awaited.candidates with
    | none => .error ⟨.unexpected Terminal.scanner Terminal.all rest, rest⟩
    | some found =>
        let piece := ⟨found.piece, source.length - rest.length⟩
        match progress.advance? rest (found.kind.2 piece) with
        | none => .error ⟨.unexpectedText found.piece, rest⟩
        | some next => rulesFrom source next found.rest
termination_by text.length
decreasing_by
  exact Nat.lt_of_lt_of_le (Scanner.rest_length_lt_of_firstMatch? _found)
    (skipGap_suffix text).length_le

/-- The rules of a sheet, with their preludes still raw. -/
def rawRules (source : Text) : Except Fault (List (Rule Lexeme)) :=
  rulesFrom source (.start source) source

/-- The selector of a prelude. Its errors are placed in the sheet, counted from
the start of the prelude. -/
def preludeSelector (config : Config) (source : Text) (prelude : Lexeme) :
    Except Error Selector :=
  match Selector.read config prelude.text with
  | .ok selector => .ok selector
  | .error error =>
      .error ⟨error.reason, Place.of source (prelude.index + error.index?.getD 0)⟩

/-- The sheet that a text writes. Of its faults, too deep nesting comes first,
then what does not fit, then the preludes in their order. A style rule stands
one block deeper than the rules around it. -/
def read (config : Config) (source : Text) : Except Error (Sheet Selector) :=
  match Brackets.curly.check .blocks (config.maxDepth + 1) source with
  | .error fault => .error (.ofFault source fault)
  | .ok () =>
      match rawRules source with
      | .error fault => .error (.ofFault source fault)
      | .ok rules =>
          (Rule.traverseAll (preludeSelector config source) rules).map Sheet.mk

example : ((read .standard "@charset \"x\"; a \x7bb: c\x7d").toOption.map Sheet.rules) =
    some [.charset "\"x\"", .style (.simple (.type "a")) [⟨"b", "c"⟩]] := by decide +kernel

end ScopedMarkup.Css.Sheet
