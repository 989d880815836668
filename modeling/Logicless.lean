import Logicless.Cache
import Logicless.CommandLine.Command
import Logicless.CommandLine.Failure
import Logicless.CommandLine.Options
import Logicless.CommandLine.Run
import Logicless.CommandLine.Words
import Logicless.DataFile
import Logicless.Dictionary
import Logicless.Example
import Logicless.Example.Suite
import Logicless.Files
import Logicless.Files.Change
import Logicless.Files.Path
import Logicless.Files.Tree
import Logicless.Html.Entity
import Logicless.Html.Escaped
import Logicless.Json
import Logicless.Json.Numeral
import Logicless.Json.Reader
import Logicless.Main
import Logicless.Number
import Logicless.Number.Decimal
import Logicless.Number.Layout
import Logicless.Number.Literal
import Logicless.Partials
import Logicless.Partials.Directory
import Logicless.Partials.History
import Logicless.Preset
import Logicless.Preset.Accounting
import Logicless.Preset.Plain
import Logicless.Proofs.Cache
import Logicless.Proofs.CommandLine.Agreement
import Logicless.Proofs.CommandLine.AllOrNothing
import Logicless.Proofs.CommandLine.Check
import Logicless.Proofs.CommandLine.Examples
import Logicless.Proofs.CommandLine.Failure
import Logicless.Proofs.CommandLine.Render
import Logicless.Proofs.CommandLine.Words
import Logicless.Proofs.DataFile
import Logicless.Proofs.Dictionary
import Logicless.Proofs.Example
import Logicless.Proofs.Example.Defect
import Logicless.Proofs.Except
import Logicless.Proofs.Files.Path
import Logicless.Proofs.Files.Place
import Logicless.Proofs.Files.Tree
import Logicless.Proofs.Files.Write
import Logicless.Proofs.History
import Logicless.Proofs.Html.Entity
import Logicless.Proofs.Html.Escape
import Logicless.Proofs.Json.Document
import Logicless.Proofs.Json.Number
import Logicless.Proofs.Number.Decimal
import Logicless.Proofs.Number.Digits
import Logicless.Proofs.Number.Exact
import Logicless.Proofs.Number.Nearest
import Logicless.Proofs.Number.Whole
import Logicless.Proofs.Partials.Directory
import Logicless.Proofs.Partials.History
import Logicless.Proofs.Preset
import Logicless.Proofs.Preset.Accounting
import Logicless.Proofs.Render.Alike
import Logicless.Proofs.Render.Chains
import Logicless.Proofs.Render.Comment
import Logicless.Proofs.Render.Concatenation
import Logicless.Proofs.Render.Congruence
import Logicless.Proofs.Render.Depth
import Logicless.Proofs.Render.Escaping
import Logicless.Proofs.Render.Inlining
import Logicless.Proofs.Render.Mention
import Logicless.Proofs.Render.MergedScope
import Logicless.Proofs.Render.Section
import Logicless.Proofs.Render.Substitution
import Logicless.Proofs.Render.Writing
import Logicless.Proofs.Template.Boundary
import Logicless.Proofs.Template.Compilation
import Logicless.Proofs.Template.FirstFault
import Logicless.Proofs.Template.Framing
import Logicless.Proofs.Template.Likeness
import Logicless.Proofs.Template.Nesting
import Logicless.Proofs.Template.Printable
import Logicless.Proofs.Template.Printing
import Logicless.Proofs.Template.Seam
import Logicless.Proofs.Template.Spelling
import Logicless.Proofs.Template.Tiling
import Logicless.Proofs.Template.Tokenization
import Logicless.Proofs.Template.Unescaped
import Logicless.Proofs.Text.Blank
import Logicless.Proofs.Text.ByteOrder
import Logicless.Proofs.Text.Cut
import Logicless.Proofs.Text.Offset
import Logicless.Proofs.Value.Document
import Logicless.Proofs.Value.Integer
import Logicless.Proofs.Value.Mapping
import Logicless.Proofs.Value.RoundTrip
import Logicless.Render
import Logicless.Render.Expansion
import Logicless.Render.Meaning
import Logicless.Render.Reference
import Logicless.Render.Unbounded
import Logicless.Scope
import Logicless.Template
import Logicless.Template.CompileError
import Logicless.Template.Draft
import Logicless.Template.Fault
import Logicless.Template.Lexeme
import Logicless.Template.Node
import Logicless.Template.Piece
import Logicless.Template.Place
import Logicless.Template.Preorder
import Logicless.Template.Printer
import Logicless.Template.Shift
import Logicless.Template.Spelling
import Logicless.Template.Token
import Logicless.TemplateError
import Logicless.Text.Blank
import Logicless.Text.Cut
import Logicless.Text.Quoted
import Logicless.Text.Ranges
import Logicless.Text.Unprintable
import Logicless.Value
import Logicless.Value.Document
import Logicless.Value.Integer
import Logicless.Value.Text
import Logicless.Yaml
import Logicless.Yaml.Cursor
import Logicless.Yaml.Document
import Logicless.Yaml.Meaning
import Logicless.Yaml.Node
import Logicless.Yaml.Plain
import Logicless.Yaml.Scalar
import Logicless.Yaml.Tag
import Logicless.Yaml.Token
