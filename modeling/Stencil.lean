import Stencil.Artifact
import Stencil.Asset
import Stencil.Block.Header
import Stencil.Block.Tree
import Stencil.Cache
import Stencil.Command
import Stencil.Command.Arguments
import Stencil.Command.Run
import Stencil.CompileError
import Stencil.Component
import Stencil.Data.Json.Printer
import Stencil.Data.Json.Reader
import Stencil.Data.Value
import Stencil.Data.Yaml
import Stencil.Data.Yaml.Reader
import Stencil.Data.Yaml.Scalar
import Stencil.Data.Yaml.Token
import Stencil.Data.Yaml.Token.Lexer
import Stencil.Decimal.Binary
import Stencil.Decimal.Numeral
import Stencil.Decimal.Shortest
import Stencil.Failure
import Stencil.Files
import Stencil.Library
import Stencil.Main
import Stencil.Path
import Stencil.Process
import Stencil.Project
import Stencil.Proofs.Block.Nesting
import Stencil.Proofs.Process.Simulation
import Stencil.Proofs.Script.Congruence
import Stencil.Render
import Stencil.Script.Coercion
import Stencil.Script.Eval
import Stencil.Script.Evaluator
import Stencil.Script.Exec
import Stencil.Script.Expr
import Stencil.Script.Expr.Parser
import Stencil.Script.Fault
import Stencil.Script.Function
import Stencil.Script.Method
import Stencil.Script.Property
import Stencil.Script.Scope
import Stencil.Script.Token
import Stencil.Script.Token.Lexer
import Stencil.Session
import Stencil.Template.Compiled
import Stencil.Template.Directive
import Stencil.Template.Marker
import Stencil.Template.Mode
import Stencil.Template.Options
import Stencil.Template.Program
import Stencil.Template.Segment
import Stencil.Template.Whitespace
import Stencil.Text.Blank
import Stencil.Text.Case
import Stencil.Text.Case.Table
import Stencil.Text.Escaped
import Stencil.Text.Letter
import Stencil.Text.Letter.Table
import Stencil.Text.Search
import Stencil.Proofs.Script.Frames
import Stencil.Proofs.Script.Underlay
import Stencil.Proofs.Render.Congruence
import Stencil.Proofs.Render.Isolation
import Stencil.Proofs.Process.Fuel
import Stencil.Proofs.Script.Fuel
import Stencil.Proofs.Render.Joining
import Stencil.Proofs.Template.Including
import Stencil.Proofs.Template.Cycle
import Stencil.Proofs.Template.Tiling
import Stencil.Proofs.Template.Slurping
import Stencil.Proofs.Template.Delimiter
import Stencil.Proofs.Template.Marker
import Stencil.Proofs.Render.Splicing
import Stencil.Proofs.Render.Locating
import Stencil.Proofs.Template.Placing
import Stencil.Proofs.Path.Normal
import Stencil.Proofs.Session.Caching
import Stencil.Proofs.Render.Record
import Stencil.Proofs.Render.Escaping
import Stencil.Proofs.Render.Extraction
import Stencil.Proofs.Template.Reading
import Stencil.Proofs.Script.Spelling
import Stencil.Proofs.Script.Unparsing
import Stencil.Proofs.Template.Lines
import Stencil.Proofs.Template.Trimming
import Stencil.Proofs.Render.Simulation
import Stencil.Proofs.Render.Discipline
import Stencil.Proofs.Template.Tracking
import Stencil.Proofs.Render.Tracking
import Stencil.Proofs.Template.Segmentation
import Stencil.Proofs.Template.Gathering
import Stencil.Proofs.Template.Metadata
import Stencil.Proofs.Template.Marking
import Stencil.Proofs.Script.Places
import Stencil.Proofs.Script.Effects
import Stencil.Proofs.Script.Chains
import Stencil.Proofs.Script.Steps
import Stencil.Proofs.Script.Writing
import Stencil.Proofs.Block.Classifying
import Stencil.Proofs.Template.Dropping
import Stencil.Proofs.Template.Stripping
import Stencil.Proofs.Process.Ensuring
import Stencil.Proofs.Script.Outline
import Stencil.Proofs.Script.Locality
import Stencil.Proofs.Render.Locality
import Stencil.Proofs.Path.Joining
import Stencil.Proofs.Template.Listing
import Stencil.Proofs.Script.Following
import Stencil.Proofs.Template.Swallowing
import Stencil.Proofs.Process.Stopping
import Stencil.Proofs.Script.Growing
import Stencil.Proofs.Template.Grammar
import Stencil.Proofs.Template.Collecting
import Stencil.Proofs.Session.Recency
import Stencil.Proofs.Script.Splitting
import Stencil.Proofs.Decimal.Whole
import Stencil.Proofs.Script.Equality
import Stencil.Proofs.Script.Views
import Stencil.Proofs.Template.Quoting
import Stencil.Proofs.Process.Providing
import Stencil.Proofs.Script.Literals
import Stencil.Proofs.Script.Results
import Stencil.Proofs.Script.Regularity
import Stencil.Proofs.Render.Regularity
