import Interpolation.Backend.Directory
import Interpolation.Backend.DotEnv
import Interpolation.Backend.Entries
import Interpolation.Backend.Json.Document
import Interpolation.Backend.Json.Number
import Interpolation.Backend.Libraries
import Interpolation.Backend.LogFilter
import Interpolation.Backend.Merging
import Interpolation.Backend.Reader
import Interpolation.Backend.Regex.Basic
import Interpolation.Backend.Regex.Class
import Interpolation.Backend.Regex.Parse
import Interpolation.Backend.Regex.Support
import Interpolation.Backend.Toml.Document
import Interpolation.Backend.Toml.Moment
import Interpolation.Backend.Toml.Number
import Interpolation.Backend.Toml.Quoted
import Interpolation.Backend.Toml.Tree
import Interpolation.Backend.Variables
import Interpolation.Binding.Basic
import Interpolation.Binding.Store
import Interpolation.Environment
import Interpolation.Logging
import Interpolation.Main
import Interpolation.Mode
import Interpolation.Number.Binary64
import Interpolation.Number.Decimal
import Interpolation.Number.Reading
import Interpolation.Number.Shortest
import Interpolation.Number.Word
import Interpolation.Program
import Interpolation.Proofs.Backend.Laws
import Interpolation.Proofs.Backend.Merging
import Interpolation.Proofs.Binding.Casing
import Interpolation.Proofs.Binding.Log
import Interpolation.Proofs.Binding.Refusal
import Interpolation.Proofs.Program.Logging
import Interpolation.Proofs.Program.Stages
import Interpolation.Proofs.Reordering
import Interpolation.Proofs.Resolution.Choice
import Interpolation.Proofs.Resolution.Evaluation
import Interpolation.Proofs.Resolution.Policies
import Interpolation.Proofs.Resolution.Prefix
import Interpolation.Proofs.Resolution.Rendering
import Interpolation.Proofs.Resolution.Rescan
import Interpolation.Proofs.Resolution.Run
import Interpolation.Proofs.Resolution.Safety
import Interpolation.Proofs.Resolution.Turns
import Interpolation.Proofs.Settings.Bindings
import Interpolation.Proofs.Settings.Merging
import Interpolation.Proofs.Settings.Precedence
import Interpolation.Proofs.Settings.Reading
import Interpolation.Proofs.Settings.Sources
import Interpolation.Proofs.Settings.Variables
import Interpolation.Proofs.Span.Braces
import Interpolation.Proofs.Span.Laminar
import Interpolation.Proofs.Span.Move
import Interpolation.Proofs.Span.Nesting
import Interpolation.Proofs.Span.Ordering
import Interpolation.Proofs.Span.Place
import Interpolation.Proofs.Template.Balance
import Interpolation.Proofs.Template.Canonical
import Interpolation.Proofs.Template.Joining
import Interpolation.Proofs.Template.Padding
import Interpolation.Proofs.Template.Residue
import Interpolation.Proofs.Template.Scan
import Interpolation.Proofs.Template.Settle
import Interpolation.Proofs.Template.Spans
import Interpolation.Proofs.Text.Lowercase
import Interpolation.Proofs.Text.Sigma
import Interpolation.Render
import Interpolation.Resolution.Basic
import Interpolation.Resolution.Run
import Interpolation.Session
import Interpolation.Settings.Basic
import Interpolation.Settings.Library
import Interpolation.Settings.Load
import Interpolation.Settings.Reading
import Interpolation.Settings.Value
import Interpolation.Span.Basic
import Interpolation.Span.Order
import Interpolation.Span.Scan
import Interpolation.Template.Basic
import Interpolation.Template.Evaluate
import Interpolation.Template.Parse
import Interpolation.Text.Alphanumeric
import Interpolation.Text.AlphanumericTable
import Interpolation.Text.Basic
import Interpolation.Text.Blank
import Interpolation.Text.CasingTable
import Interpolation.Text.CharSet
import Interpolation.Text.Lowercase
import Interpolation.Text.NumeralTable
