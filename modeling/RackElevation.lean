import RackElevation.Arguments
import RackElevation.CommandLine
import RackElevation.Conversion
import RackElevation.Data.Checked
import RackElevation.Data.Dump
import RackElevation.Data.Json
import RackElevation.Data.Schema
import RackElevation.Data.Value
import RackElevation.Decimal.Binary64
import RackElevation.Decimal.Figures
import RackElevation.Decimal.Numeral
import RackElevation.Diagnostic
import RackElevation.Dialect
import RackElevation.Drawing
import RackElevation.Layout
import RackElevation.Link
import RackElevation.Main
import RackElevation.Rack
import RackElevation.RackML
import RackElevation.RackText.Cursor
import RackElevation.RackText.Fault
import RackElevation.RackText.Item
import RackElevation.Service
import RackElevation.Service.Form
import RackElevation.Service.HeaderValue
import RackElevation.Service.Message
import RackElevation.Service.Multipart
import RackElevation.Service.Route
import RackElevation.Session
import RackElevation.Settings
import RackElevation.Storage.Path
import RackElevation.Storage.Store
import RackElevation.Svg.Glyph
import RackElevation.Svg.Node
import RackElevation.Svg.Shape
import RackElevation.Text.Base64
import RackElevation.Text.Blank
import RackElevation.Text.CodePoint
import RackElevation.Text.Cut
import RackElevation.Text.Digit
import RackElevation.Text.Entity
import RackElevation.Text.Lines
import RackElevation.Text.Quoted
import RackElevation.Text.Shown
import RackElevation.Text.Upper
import RackElevation.Text.Utf8
import RackElevation.Text.Walk
import RackElevation.Uri.Host
import RackElevation.Uri.Join
import RackElevation.Uri.Parts
import RackElevation.Uri.Percent
import RackElevation.Xml.Content
import RackElevation.Xml.Declaration
import RackElevation.Xml.Doctype
import RackElevation.Xml.Document
import RackElevation.Xml.Element
import RackElevation.Xml.Entity
import RackElevation.Xml.Fault
import RackElevation.Xml.Growth
import RackElevation.Xml.Lexeme
import RackElevation.Xml.Name
import RackElevation.Xml.Namespace
import RackElevation.Xml.Prolog
import RackElevation.Yaml.Cursor
import RackElevation.Yaml.Document
import RackElevation.Yaml.Fault
import RackElevation.Yaml.Lexeme
import RackElevation.Yaml.Mark
import RackElevation.Yaml.Meaning
import RackElevation.Yaml.Moment
import RackElevation.Yaml.Node
import RackElevation.Yaml.Number
import RackElevation.Yaml.Scalar
import RackElevation.Yaml.Token
import RackElevation.Proofs.CommandLine.Delivery
import RackElevation.Proofs.CommandLine.Reporting
import RackElevation.Proofs.CommandLine.Running
import RackElevation.Proofs.Conversion
import RackElevation.Proofs.Data.Acceptance
import RackElevation.Proofs.Data.Issues
import RackElevation.Proofs.Data.Json
import RackElevation.Proofs.Data.Model
import RackElevation.Proofs.Decimal.Half
import RackElevation.Proofs.Decimal.Literal
import RackElevation.Proofs.Decimal.Notation
import RackElevation.Proofs.Decimal.Overflow
import RackElevation.Proofs.Devices
import RackElevation.Proofs.Drawing.Canvas
import RackElevation.Proofs.Drawing.Characters
import RackElevation.Proofs.Drawing.Depiction
import RackElevation.Proofs.Drawing.Document
import RackElevation.Proofs.Drawing.Limits
import RackElevation.Proofs.Drawing.Links
import RackElevation.Proofs.Drawing.Look
import RackElevation.Proofs.Drawing.Measure
import RackElevation.Proofs.Drawing.Plan
import RackElevation.Proofs.Drawing.Scale
import RackElevation.Proofs.Drawing.Survey
import RackElevation.Proofs.Layout
import RackElevation.Proofs.Layout.Pinning
import RackElevation.Proofs.Layout.Stacking
import RackElevation.Proofs.Link.Address
import RackElevation.Proofs.Link.Effect
import RackElevation.Proofs.Link.Frame
import RackElevation.Proofs.Link.Interruption
import RackElevation.Proofs.Link.Linking
import RackElevation.Proofs.Link.Notes
import RackElevation.Proofs.Link.Resolver
import RackElevation.Proofs.Link.Settling
import RackElevation.Proofs.Markup.Character
import RackElevation.Proofs.Markup.Entities
import RackElevation.Proofs.Markup.Pieces
import RackElevation.Proofs.Markup.Reading
import RackElevation.Proofs.Markup.Tags
import RackElevation.Proofs.Outcome
import RackElevation.Proofs.Padding
import RackElevation.Proofs.RackML.Edits
import RackElevation.Proofs.RackML.Fields
import RackElevation.Proofs.RackML.Numbers
import RackElevation.Proofs.RackML.Overlong
import RackElevation.Proofs.RackML.Positions
import RackElevation.Proofs.RackML.Writing
import RackElevation.Proofs.RackText.Acceptance
import RackElevation.Proofs.RackText.Blame
import RackElevation.Proofs.RackText.Calls
import RackElevation.Proofs.RackText.Grammar
import RackElevation.Proofs.RackText.Judgement
import RackElevation.Proofs.RackText.Kept
import RackElevation.Proofs.RackText.Layout
import RackElevation.Proofs.RackText.Overlong
import RackElevation.Proofs.RackText.Reading
import RackElevation.Proofs.RackText.Result
import RackElevation.Proofs.RackText.Writing
import RackElevation.Proofs.Service.Rendering
import RackElevation.Proofs.Service.Replies
import RackElevation.Proofs.Service.Request
import RackElevation.Proofs.Service.Response
import RackElevation.Proofs.Session
import RackElevation.Proofs.Settings
import RackElevation.Proofs.Source
import RackElevation.Proofs.Storage.Store
import RackElevation.Proofs.Surfaces
import RackElevation.Proofs.Text.CodePoint
import RackElevation.Proofs.Text.Escaping
import RackElevation.Proofs.Text.Runs
import RackElevation.Proofs.Text.Trimming
import RackElevation.Proofs.Text.Utf8
import RackElevation.Proofs.Uri.Percent
import RackElevation.Proofs.Uri.Proper
import RackElevation.Proofs.Uri.Scheme
import RackElevation.Proofs.Validation
import RackElevation.Proofs.Xml.Lead
import RackElevation.Proofs.Xml.Lexeme
import RackElevation.Proofs.Xml.Marks
import RackElevation.Proofs.Xml.Nesting
import RackElevation.Proofs.Xml.Places
import RackElevation.Proofs.Xml.Places.Prolog
import RackElevation.Proofs.Xml.Places.Values
import RackElevation.Proofs.Xml.Tokens
import RackElevation.Proofs.Xml.Trail
import RackElevation.Proofs.Xml.Trail.Content
import RackElevation.Proofs.Xml.Trail.Growth
import RackElevation.Proofs.Xml.Trail.Prolog
