import RunAtlas.Dashboard
import RunAtlas.Decimal.Double
import RunAtlas.Decimal.Layout
import RunAtlas.Decimal.Numeral
import RunAtlas.Decimal.Shortest
import RunAtlas.Definition.Basic
import RunAtlas.Definition.Decode
import RunAtlas.Definition.Encode
import RunAtlas.Definition.Read
import RunAtlas.Failure
import RunAtlas.Json.Decode
import RunAtlas.Json.Number
import RunAtlas.Json.Reader
import RunAtlas.Json.Value
import RunAtlas.Json.Writer
import RunAtlas.MachineWord
import RunAtlas.Mismatch
import RunAtlas.Model.CompositeAction
import RunAtlas.Model.Job
import RunAtlas.Model.NameMap
import RunAtlas.Model.Pairing
import RunAtlas.Model.Reconciliation
import RunAtlas.Model.Step
import RunAtlas.Model.Workflow
import RunAtlas.Notice
import RunAtlas.Outline.Build
import RunAtlas.Outline.Node
import RunAtlas.Outline.Workflow
import RunAtlas.Proofs.Dashboard
import RunAtlas.Proofs.Definition.Fields
import RunAtlas.Proofs.Definition.Keys
import RunAtlas.Proofs.Definition.Plans
import RunAtlas.Proofs.Definition.Records
import RunAtlas.Proofs.Definition.RoundTrip
import RunAtlas.Proofs.Definition.Tags
import RunAtlas.Proofs.FirstElement
import RunAtlas.Proofs.Json.Writing
import RunAtlas.Proofs.Model.Accounts
import RunAtlas.Proofs.Model.Alignment
import RunAtlas.Proofs.Model.ByteOrderMark
import RunAtlas.Proofs.Model.CallableWorkflows
import RunAtlas.Proofs.Model.Checks
import RunAtlas.Proofs.Model.CompositeViews
import RunAtlas.Proofs.Model.EmptyWorkflows
import RunAtlas.Proofs.Model.FailureStages
import RunAtlas.Proofs.Model.JobIds
import RunAtlas.Proofs.Model.JobMisses
import RunAtlas.Proofs.Model.JobRank
import RunAtlas.Proofs.Model.LineEndings
import RunAtlas.Proofs.Model.LineOrder
import RunAtlas.Proofs.Model.LocalPaths
import RunAtlas.Proofs.Model.MatrixNames
import RunAtlas.Proofs.Model.NameMap
import RunAtlas.Proofs.Model.Pairing
import RunAtlas.Proofs.Model.Stages
import RunAtlas.Proofs.Model.StepNames
import RunAtlas.Proofs.Model.StepSearch
import RunAtlas.Proofs.Outcome
import RunAtlas.Proofs.Outline.Building
import RunAtlas.Proofs.Outline.Description
import RunAtlas.Proofs.Outline.Flattening
import RunAtlas.Proofs.Outline.NodeLines
import RunAtlas.Proofs.Outline.Order
import RunAtlas.Proofs.Outline.SameLines
import RunAtlas.Proofs.Record.RoundTrip
import RunAtlas.Proofs.Record.Slots
import RunAtlas.Proofs.Record.Spelled
import RunAtlas.Proofs.Text.Divisions
import RunAtlas.Proofs.Text.Ends
import RunAtlas.Proofs.Text.LineEndings
import RunAtlas.Proofs.Text.Lines
import RunAtlas.Proofs.Text.Positions
import RunAtlas.Proofs.Text.Wildcards
import RunAtlas.Record.Basic
import RunAtlas.Record.Decode
import RunAtlas.Record.Encode
import RunAtlas.SourceFile
import RunAtlas.Text.Blank
import RunAtlas.Text.Glyphless
import RunAtlas.Text.LineIndex
import RunAtlas.Text.Placeholder
import RunAtlas.Text.Quoted
import RunAtlas.Text.Search
import RunAtlas.Yaml.BlockHeader
import RunAtlas.Yaml.Classic.Compose
import RunAtlas.Yaml.Classic.Events
import RunAtlas.Yaml.Classic.Scalars
import RunAtlas.Yaml.Classic.Tokens
import RunAtlas.Yaml.Current.Events
import RunAtlas.Yaml.Current.Scalars
import RunAtlas.Yaml.Current.Tokens
import RunAtlas.Yaml.Cursor
import RunAtlas.Yaml.Event
import RunAtlas.Yaml.Gap
import RunAtlas.Yaml.PlainScalar
import RunAtlas.Yaml.QuotedScalar
import RunAtlas.Yaml.Resolve
import RunAtlas.Yaml.TagName
import RunAtlas.Yaml.Token
import RunAtlas.Yaml.Value
