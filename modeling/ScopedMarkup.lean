import ScopedMarkup.CommandLine.Answer
import ScopedMarkup.CommandLine.Folder
import ScopedMarkup.CommandLine.Host
import ScopedMarkup.CommandLine.Outline
import ScopedMarkup.CommandLine.Request
import ScopedMarkup.CommandLine.Switch
import ScopedMarkup.Config
import ScopedMarkup.Css.Comment
import ScopedMarkup.Css.Error
import ScopedMarkup.Css.Name
import ScopedMarkup.Css.Nesting
import ScopedMarkup.Css.Selector.Basic
import ScopedMarkup.Css.Selector.Chain
import ScopedMarkup.Css.Selector.Evaluation
import ScopedMarkup.Css.Selector.Printer
import ScopedMarkup.Css.Selector.Reader
import ScopedMarkup.Css.Selector.Scoping
import ScopedMarkup.Css.Selector.Token
import ScopedMarkup.Css.Sheet.Basic
import ScopedMarkup.Css.Sheet.Evaluation
import ScopedMarkup.Css.Sheet.Printer
import ScopedMarkup.Css.Sheet.Reader
import ScopedMarkup.Css.Sheet.Scoping
import ScopedMarkup.Css.Sheet.Terminal
import ScopedMarkup.Css.Sheet.Virtual
import ScopedMarkup.Foreign
import ScopedMarkup.Lint.Check
import ScopedMarkup.Lint.Finding
import ScopedMarkup.Lint.Validation
import ScopedMarkup.Main
import ScopedMarkup.Markup.Cursor
import ScopedMarkup.Markup.Error
import ScopedMarkup.Markup.Evaluation
import ScopedMarkup.Markup.Node
import ScopedMarkup.Markup.Piece
import ScopedMarkup.Markup.Printer
import ScopedMarkup.Markup.Query
import ScopedMarkup.Markup.Reader
import ScopedMarkup.Markup.Token
import ScopedMarkup.Markup.Virtual
import ScopedMarkup.Text.Basic
import ScopedMarkup.Text.Blank
import ScopedMarkup.Text.CharacterClass
import ScopedMarkup.Text.Integer
import ScopedMarkup.Text.Newlines
import ScopedMarkup.Text.Place
import ScopedMarkup.Text.Printable
import ScopedMarkup.Text.Quoted
import ScopedMarkup.Text.Scanner
import ScopedMarkup.Text.WordCharacter
import ScopedMarkup.Proofs.CommandLine.Stylesheets
import ScopedMarkup.Proofs.Css.Cleaning
import ScopedMarkup.Proofs.Css.Selector.Chain
import ScopedMarkup.Proofs.Css.Selector.Isolation
import ScopedMarkup.Proofs.Css.Selector.Negations
import ScopedMarkup.Proofs.Css.Selector.NormalForm
import ScopedMarkup.Proofs.Css.Selector.Respacing
import ScopedMarkup.Proofs.Css.Selector.Template
import ScopedMarkup.Proofs.Css.Sheet.Acceptance
import ScopedMarkup.Proofs.Css.Sheet.Blocks
import ScopedMarkup.Proofs.Css.Sheet.Concatenation
import ScopedMarkup.Proofs.Css.Sheet.Evaluation
import ScopedMarkup.Proofs.Css.Sheet.Offence
import ScopedMarkup.Proofs.Css.Sheet.Respacing
import ScopedMarkup.Proofs.Css.Sheet.Scoping
import ScopedMarkup.Proofs.Lint.Duplicates
import ScopedMarkup.Proofs.Lint.Validation
import ScopedMarkup.Proofs.Markup.Depth
import ScopedMarkup.Proofs.Markup.Marking
import ScopedMarkup.Proofs.Markup.Placement
import ScopedMarkup.Proofs.Markup.RoundTrip
import ScopedMarkup.Proofs.Markup.Scoping
import ScopedMarkup.Proofs.Markup.Search
import ScopedMarkup.Proofs.Markup.Strictness
import ScopedMarkup.Proofs.Markup.Tokens
import ScopedMarkup.Proofs.Markup.WellFormed
import ScopedMarkup.Proofs.Text.Location
