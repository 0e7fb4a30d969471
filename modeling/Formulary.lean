import Formulary.Arithmetic
import Formulary.Command.Act
import Formulary.Command.Binding
import Formulary.Command.Outline
import Formulary.Command.Page
import Formulary.Command.Run
import Formulary.Command.Switch
import Formulary.Data.Base64
import Formulary.Data.Datum
import Formulary.Data.Display
import Formulary.Data.Entries
import Formulary.Data.Environment
import Formulary.Data.Folder
import Formulary.Data.Moment
import Formulary.Data.Nesting
import Formulary.Data.Overlay
import Formulary.Data.Path
import Formulary.Data.Stamp
import Formulary.Decimal.Basic
import Formulary.Decimal.Free
import Formulary.Decimal.Layout
import Formulary.Decimal.Nearest
import Formulary.Decimal.Numeral
import Formulary.Decimal.Places
import Formulary.Decimal.Shortest
import Formulary.Fault
import Formulary.Formula.Operator
import Formulary.Formula.Rule
import Formulary.Formula.Session
import Formulary.Function.Catalog
import Formulary.Function.Signature
import Formulary.Issue
import Formulary.Json.Print
import Formulary.Log.Format
import Formulary.Log.Level
import Formulary.Log.Logger
import Formulary.Log.Record
import Formulary.Log.Slot
import Formulary.Main
import Formulary.Output
import Formulary.Proofs.Command.Actions
import Formulary.Proofs.Command.Bindings
import Formulary.Proofs.Command.Course
import Formulary.Proofs.Command.Evaluation
import Formulary.Proofs.Command.Reported
import Formulary.Proofs.Command.Spelling
import Formulary.Proofs.Data.Flattened
import Formulary.Proofs.Data.Identity
import Formulary.Proofs.Data.Keys
import Formulary.Proofs.Data.Merged
import Formulary.Proofs.Data.Nested
import Formulary.Proofs.Data.Outcome
import Formulary.Proofs.Data.Paths
import Formulary.Proofs.Data.Places
import Formulary.Proofs.Data.Variables
import Formulary.Proofs.Decimal.Amount
import Formulary.Proofs.Decimal.Bits
import Formulary.Proofs.Decimal.Form
import Formulary.Proofs.Decimal.Layout
import Formulary.Proofs.Decimal.Leading
import Formulary.Proofs.Decimal.Numerals
import Formulary.Proofs.Decimal.Overflow
import Formulary.Proofs.Decimal.Readers
import Formulary.Proofs.Decimal.RoundTrip
import Formulary.Proofs.Decimal.Rounding
import Formulary.Proofs.Decimal.Spelling
import Formulary.Proofs.Fault.Causes
import Formulary.Proofs.Fault.Raise
import Formulary.Proofs.Fault.Reach
import Formulary.Proofs.Function.Bodies
import Formulary.Proofs.Function.Lookup
import Formulary.Proofs.Function.Matching
import Formulary.Proofs.Function.Names
import Formulary.Proofs.Function.Results
import Formulary.Proofs.Function.Variadic
import Formulary.Proofs.Grammar.Accepted
import Formulary.Proofs.Grammar.Calls
import Formulary.Proofs.Grammar.Chained
import Formulary.Proofs.Grammar.Complete
import Formulary.Proofs.Grammar.Errors
import Formulary.Proofs.Grammar.Extension
import Formulary.Proofs.Grammar.Gives
import Formulary.Proofs.Grammar.Ladder
import Formulary.Proofs.Grammar.Literal
import Formulary.Proofs.Grammar.Operands
import Formulary.Proofs.Grammar.Parts
import Formulary.Proofs.Grammar.Print
import Formulary.Proofs.Grammar.Quotation
import Formulary.Proofs.Grammar.Recovery
import Formulary.Proofs.Grammar.Sound
import Formulary.Proofs.Grammar.Stopped
import Formulary.Proofs.Grammar.Substitution
import Formulary.Proofs.Grammar.Tiers
import Formulary.Proofs.Grammar.Tree
import Formulary.Proofs.Grammar.Viable
import Formulary.Proofs.Grammar.Written
import Formulary.Proofs.Grammar.Yield
import Formulary.Proofs.Legacy.Stray
import Formulary.Proofs.Legacy.Surface
import Formulary.Proofs.Log.Delivery
import Formulary.Proofs.Machine.Follows
import Formulary.Proofs.Machine.Progress
import Formulary.Proofs.Reading.Course
import Formulary.Proofs.Reading.Depth
import Formulary.Proofs.Reading.Lockstep
import Formulary.Proofs.Reading.Lookups
import Formulary.Proofs.Reading.Parallel
import Formulary.Proofs.Reading.Renamed
import Formulary.Proofs.Reading.Spaces
import Formulary.Proofs.Reading.Steps
import Formulary.Proofs.Reading.Turns
import Formulary.Proofs.Reading.Verdict
import Formulary.Proofs.Screen.Control
import Formulary.Proofs.Session.History
import Formulary.Proofs.Settings.Layers
import Formulary.Proofs.Settings.Load
import Formulary.Proofs.Settings.Saved
import Formulary.Proofs.Text.Upper
import Formulary.Proofs.Tokens.Brackets
import Formulary.Proofs.Tokens.Canonical
import Formulary.Proofs.Tokens.Cut
import Formulary.Proofs.Tokens.Front
import Formulary.Proofs.Tokens.Inner
import Formulary.Proofs.Tokens.Pieces
import Formulary.Proofs.Tokens.Place
import Formulary.Proofs.Tokens.Substitute
import Formulary.Proofs.Tokens.Tidy
import Formulary.Proofs.Value.Arithmetic
import Formulary.Proofs.Value.Assignment
import Formulary.Proofs.Value.Comparison
import Formulary.Proofs.Value.Origin
import Formulary.Proofs.Yaml.Printed
import Formulary.Proofs.Yaml.Tokens
import Formulary.Screen.Control
import Formulary.Screen.Emoji
import Formulary.Screen.EmojiTable
import Formulary.Screen.Markup
import Formulary.Screen.Notice
import Formulary.Screen.Table
import Formulary.Screen.Wrap
import Formulary.Settings.Basic
import Formulary.Settings.Field
import Formulary.Settings.Form
import Formulary.Settings.Layers
import Formulary.Text.Blank
import Formulary.Text.Case
import Formulary.Text.CaseTable
import Formulary.Text.Digit
import Formulary.Text.DigitTable
import Formulary.Text.Line
import Formulary.Text.PrintTable
import Formulary.Text.Quoted
import Formulary.Text.Similar
import Formulary.Text.Span
import Formulary.Text.Split
import Formulary.Text.Width
import Formulary.Text.WidthTable
import Formulary.Text.WordTable
import Formulary.Token
import Formulary.Value
import Formulary.Value.Slot
import Formulary.Yaml.Content
import Formulary.Yaml.Cursor
import Formulary.Yaml.Flaw
import Formulary.Yaml.Layout
import Formulary.Yaml.Node
import Formulary.Yaml.Pen
import Formulary.Yaml.Print
import Formulary.Yaml.Scalar.Block
import Formulary.Yaml.Scalar.Plain
import Formulary.Yaml.Scalar.Quoted
import Formulary.Yaml.Style
import Formulary.Yaml.Tag
import Formulary.Yaml.Token
