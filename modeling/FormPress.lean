import FormPress.Command.Arguments
import FormPress.Command.Invocation
import FormPress.Command.LogFile
import FormPress.Command.Run
import FormPress.Decode.Checked
import FormPress.Decode.Fault
import FormPress.Decode.Scalar
import FormPress.Document.Compile
import FormPress.Document.Page
import FormPress.Document.Pixels
import FormPress.Field.Condition
import FormPress.Field.Entry
import FormPress.Field.Formula
import FormPress.Field.Notice
import FormPress.Field.Render
import FormPress.Field.Scale
import FormPress.Field.Selection
import FormPress.Field.View
import FormPress.Field.Widget
import FormPress.Files.Basic
import FormPress.Files.Tree
import FormPress.Form.Basic
import FormPress.Form.Dump
import FormPress.Form.File
import FormPress.Form.Load
import FormPress.Form.Pages
import FormPress.Form.References
import FormPress.Form.Vocabulary
import FormPress.Image.Address
import FormPress.Image.Embed
import FormPress.Image.MediaType
import FormPress.Json.Basic
import FormPress.Json.Display
import FormPress.Json.Reader
import FormPress.Json.Wide
import FormPress.Json.Writer
import FormPress.Log
import FormPress.Main
import FormPress.Markup.Basic
import FormPress.Number.Binary64
import FormPress.Number.Layout
import FormPress.Number.Literal
import FormPress.Number.Reading
import FormPress.Proofs.Command.Check
import FormPress.Proofs.Command.Compile
import FormPress.Proofs.Command.DocumentPath
import FormPress.Proofs.Command.LogFile
import FormPress.Proofs.Decode.Dumped
import FormPress.Proofs.Decode.Loaded
import FormPress.Proofs.Decode.Records
import FormPress.Proofs.Decode.Spelling
import FormPress.Proofs.Document.Body
import FormPress.Proofs.Document.Compile
import FormPress.Proofs.Document.Declaration
import FormPress.Proofs.Document.EndTags
import FormPress.Proofs.Document.Entrances
import FormPress.Proofs.Document.Marks
import FormPress.Proofs.Document.Outcome
import FormPress.Proofs.Document.Pages
import FormPress.Proofs.Document.Pixels
import FormPress.Proofs.Document.Script
import FormPress.Proofs.Document.Sections
import FormPress.Proofs.Field.Attributes
import FormPress.Proofs.Field.Chosen
import FormPress.Proofs.Field.Computed
import FormPress.Proofs.Field.Controls
import FormPress.Proofs.Field.Defaults
import FormPress.Proofs.Field.Formulas
import FormPress.Proofs.Field.Identity
import FormPress.Proofs.Field.Measure
import FormPress.Proofs.Field.Options
import FormPress.Proofs.Field.References
import FormPress.Proofs.Field.Rendered
import FormPress.Proofs.Field.Scales
import FormPress.Proofs.Field.Slots
import FormPress.Proofs.Field.WellFormed
import FormPress.Proofs.Field.WireNames
import FormPress.Proofs.Files.Tree
import FormPress.Proofs.Form.Checked
import FormPress.Proofs.Form.Cycles
import FormPress.Proofs.Form.Declaration
import FormPress.Proofs.Form.Dumped
import FormPress.Proofs.Form.Loaded
import FormPress.Proofs.Form.Naming
import FormPress.Proofs.Form.Pages
import FormPress.Proofs.Form.Pagination
import FormPress.Proofs.Form.Spelling
import FormPress.Proofs.Form.Tidy
import FormPress.Proofs.Form.Tours
import FormPress.Proofs.Image.DataAddress
import FormPress.Proofs.Image.Embedding
import FormPress.Proofs.Json.Bounds
import FormPress.Proofs.Json.Leaves
import FormPress.Proofs.Json.Numbers
import FormPress.Proofs.Json.Printed
import FormPress.Proofs.Json.RoundTrip
import FormPress.Proofs.Json.Steps
import FormPress.Proofs.Json.Strings
import FormPress.Proofs.Json.Tidy
import FormPress.Proofs.Json.Wide
import FormPress.Proofs.Markup.Built
import FormPress.Proofs.Markup.EndTags
import FormPress.Proofs.Markup.Forgery
import FormPress.Proofs.Markup.Grammar
import FormPress.Proofs.Markup.Names
import FormPress.Proofs.Markup.Reader
import FormPress.Proofs.Markup.Scans
import FormPress.Proofs.Markup.Tags
import FormPress.Proofs.Number.Canonical
import FormPress.Proofs.Number.Comparison
import FormPress.Proofs.Number.Decimal
import FormPress.Proofs.Number.Finite
import FormPress.Proofs.Number.Numeral
import FormPress.Proofs.Number.Shortest
import FormPress.Proofs.Number.Texts
import FormPress.Proofs.Number.Written
import FormPress.Proofs.Result
import FormPress.Proofs.Script.Images
import FormPress.Proofs.Script.Literals
import FormPress.Proofs.Script.Neat
import FormPress.Proofs.Script.Parts
import FormPress.Proofs.Script.Pieces
import FormPress.Proofs.Script.WideLiterals
import FormPress.Proofs.Settings.Loading
import FormPress.Proofs.Settings.Overlay
import FormPress.Proofs.Settings.Precedence
import FormPress.Proofs.Style.Address
import FormPress.Proofs.Style.Calm
import FormPress.Proofs.Style.Entrance
import FormPress.Proofs.Style.Pieces
import FormPress.Proofs.Style.Remarks
import FormPress.Proofs.Style.Rules
import FormPress.Proofs.Style.Shape
import FormPress.Proofs.Style.Sheets
import FormPress.Proofs.Submission.Columns
import FormPress.Proofs.Submission.Helpers
import FormPress.Proofs.Table
import FormPress.Proofs.Text.Base64
import FormPress.Proofs.Text.Lines
import FormPress.Proofs.Text.Mask
import FormPress.Proofs.Text.Occurrences
import FormPress.Proofs.Text.Places
import FormPress.Proofs.Text.Remarks
import FormPress.Proofs.Text.Slug
import FormPress.Proofs.Text.Splits
import FormPress.Proofs.Text.Utf8
import FormPress.Proofs.Toml.Keys
import FormPress.Script.Access
import FormPress.Script.Code
import FormPress.Script.Conditions
import FormPress.Script.Confetti
import FormPress.Script.Paging
import FormPress.Script.Reveal
import FormPress.Script.Submission
import FormPress.Script.Widgets
import FormPress.Settings.Basic
import FormPress.Settings.Check
import FormPress.Settings.Environment
import FormPress.Settings.Load
import FormPress.Style.Controls
import FormPress.Style.Entrance
import FormPress.Style.Grid
import FormPress.Style.Layout
import FormPress.Style.Sheet
import FormPress.Style.Theme
import FormPress.Style.Title
import FormPress.Style.Token
import FormPress.Submission.Plan
import FormPress.Table
import FormPress.Text.Base64
import FormPress.Text.Basic
import FormPress.Text.Blank
import FormPress.Text.Composition
import FormPress.Text.Direction
import FormPress.Text.Joining
import FormPress.Text.Lower
import FormPress.Text.Mask
import FormPress.Text.Percent
import FormPress.Text.Points
import FormPress.Text.Printable
import FormPress.Text.Quoted
import FormPress.Text.Ranges
import FormPress.Text.Similarity
import FormPress.Text.Slug
import FormPress.Text.Utf8
import FormPress.Text.Word
import FormPress.Toml.Basic
import FormPress.Toml.Reader
import FormPress.Toml.Scalar
import FormPress.Toml.Strings
import FormPress.Url.Basic
import FormPress.Url.Domain
import FormPress.Url.Host
import FormPress.Url.Mapping
import FormPress.Url.Punycode
