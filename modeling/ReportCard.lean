import ReportCard.Builtin.Parts
import ReportCard.Builtin.Sample
import ReportCard.Builtin.Templates
import ReportCard.Drawing.Basic
import ReportCard.Drawing.Canvas
import ReportCard.Drawing.Color.Basic
import ReportCard.Drawing.Color.Function
import ReportCard.Drawing.Color.Grammar
import ReportCard.Drawing.Color.Mix
import ReportCard.Drawing.Color.Name
import ReportCard.Drawing.Color.Operation
import ReportCard.Drawing.Color.Paint
import ReportCard.Drawing.Color.Term
import ReportCard.Drawing.Color.Token
import ReportCard.Drawing.Color.Written
import ReportCard.Drawing.Metrics
import ReportCard.Drawing.Named
import ReportCard.Drawing.Recorder
import ReportCard.Drawing.Script
import ReportCard.Element.Basic
import ReportCard.Element.Kind
import ReportCard.Element.Style
import ReportCard.Element.Template
import ReportCard.Fault
import ReportCard.Image.Attempt
import ReportCard.Image.Data
import ReportCard.Image.Fetch
import ReportCard.Image.Gathering
import ReportCard.Image.Path
import ReportCard.Image.Source
import ReportCard.Image.Url.Basic
import ReportCard.Image.Url.Escape
import ReportCard.Image.Url.Fault
import ReportCard.Image.Url.Host
import ReportCard.Image.Url.Label
import ReportCard.Image.Url.Redirect
import ReportCard.Image.Url.Reference
import ReportCard.Image.Web
import ReportCard.Note
import ReportCard.Number.Decimal
import ReportCard.Number.Decimal.Arithmetic
import ReportCard.Number.Exact
import ReportCard.Number.Numeral
import ReportCard.Number.Scalar
import ReportCard.Number.Shortest
import ReportCard.Page.Scaler
import ReportCard.Page.Settings
import ReportCard.Page.Size
import ReportCard.Painting.Image
import ReportCard.Painting.Page
import ReportCard.Painting.Shape
import ReportCard.Painting.Table.Basic
import ReportCard.Painting.Table.Cell
import ReportCard.Painting.Table.Layout
import ReportCard.Painting.Text
import ReportCard.Proofs.Builtin.Columns
import ReportCard.Proofs.Builtin.Recolumn
import ReportCard.Proofs.Drawing.Bracket
import ReportCard.Proofs.Drawing.Command
import ReportCard.Proofs.Drawing.Drawable
import ReportCard.Proofs.Drawing.Graphics
import ReportCard.Proofs.Drawing.Picture
import ReportCard.Proofs.Drawing.Relation
import ReportCard.Proofs.Drawing.Replay
import ReportCard.Proofs.Drawing.Stroke
import ReportCard.Proofs.Drawing.Substitution
import ReportCard.Proofs.Drawing.Tally
import ReportCard.Proofs.Drawing.Transcript
import ReportCard.Proofs.Element.Absence
import ReportCard.Proofs.Element.BottomRule
import ReportCard.Proofs.Element.Drawings
import ReportCard.Proofs.Element.Extent
import ReportCard.Proofs.Element.Reading
import ReportCard.Proofs.Element.Styling
import ReportCard.Proofs.Element.Zoom
import ReportCard.Proofs.Image.Enclosure
import ReportCard.Proofs.Image.Gathering
import ReportCard.Proofs.Image.Haul
import ReportCard.Proofs.Image.Reduction
import ReportCard.Proofs.Number.Double
import ReportCard.Proofs.Number.Float
import ReportCard.Proofs.Number.Nearest
import ReportCard.Proofs.Number.Numeral
import ReportCard.Proofs.Number.Printing
import ReportCard.Proofs.Number.Rounding
import ReportCard.Proofs.Number.Shortest
import ReportCard.Proofs.Number.Whole
import ReportCard.Proofs.Page.Absence
import ReportCard.Proofs.Page.Buffering
import ReportCard.Proofs.Page.Document
import ReportCard.Proofs.Page.Exact
import ReportCard.Proofs.Page.Fatality
import ReportCard.Proofs.Page.Fit
import ReportCard.Proofs.Page.FontSize
import ReportCard.Proofs.Page.Isolation
import ReportCard.Proofs.Page.Layout
import ReportCard.Proofs.Page.Locality
import ReportCard.Proofs.Page.Numbering
import ReportCard.Proofs.Page.OwnImage
import ReportCard.Proofs.Page.Preparation
import ReportCard.Proofs.Page.SavedState
import ReportCard.Proofs.Page.Size
import ReportCard.Proofs.Page.Wrapper
import ReportCard.Proofs.Record.Absence
import ReportCard.Proofs.Record.Display
import ReportCard.Proofs.Record.Failure
import ReportCard.Proofs.Table.Band
import ReportCard.Proofs.Table.Columns
import ReportCard.Proofs.Table.Content
import ReportCard.Proofs.Table.Drawings
import ReportCard.Proofs.Table.Extent
import ReportCard.Proofs.Table.Failure
import ReportCard.Proofs.Table.Heading
import ReportCard.Proofs.Table.Naming
import ReportCard.Proofs.Table.Proportion
import ReportCard.Proofs.Table.Score
import ReportCard.Proofs.Table.Tick
import ReportCard.Proofs.Table.Tiling
import ReportCard.Proofs.Text.Blank
import ReportCard.Proofs.Text.Case
import ReportCard.Proofs.Value.Path
import ReportCard.Proofs.Value.Reading
import ReportCard.Record.Basic
import ReportCard.Record.Catalogue
import ReportCard.Record.Display
import ReportCard.Record.Field
import ReportCard.Text.Blank
import ReportCard.Text.Case
import ReportCard.Text.CaseTable
import ReportCard.Text.CharacterName
import ReportCard.Text.CharacterName.Ancient
import ReportCard.Text.CharacterName.Basic
import ReportCard.Text.CharacterName.Brahmic
import ReportCard.Text.CharacterName.Cuneiform
import ReportCard.Text.CharacterName.EastAsian
import ReportCard.Text.CharacterName.European
import ReportCard.Text.CharacterName.Form
import ReportCard.Text.CharacterName.Indic
import ReportCard.Text.CharacterName.Modern
import ReportCard.Text.CharacterName.Notation
import ReportCard.Text.CharacterName.Phonetic
import ReportCard.Text.CharacterName.Pictograph
import ReportCard.Text.CharacterName.Pictorial
import ReportCard.Text.CharacterName.Semitic
import ReportCard.Text.CharacterName.Shape
import ReportCard.Text.CharacterName.Sign
import ReportCard.Text.CharacterName.Syllabic
import ReportCard.Text.CharacterName.Tag
import ReportCard.Text.CodePage
import ReportCard.Text.Composite
import ReportCard.Text.Digit
import ReportCard.Text.Direction
import ReportCard.Text.Encoding
import ReportCard.Text.HostPart
import ReportCard.Text.Joining
import ReportCard.Text.Mark
import ReportCard.Text.NamePart
import ReportCard.Text.Printable
import ReportCard.Text.Punycode
import ReportCard.Text.Quoted
import ReportCard.Text.Script
import ReportCard.Text.Utf8
import ReportCard.Text.Variant
import ReportCard.Value.Basic
import ReportCard.Value.Display
import ReportCard.Value.Json
import ReportCard.Value.Number
import ReportCard.Value.Path
import ReportCard.Value.Quantity
