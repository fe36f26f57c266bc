import RelationalLearning.Arrow.Flat
import RelationalLearning.Arrow.Stream
import RelationalLearning.Arrow.Table
import RelationalLearning.Calendar
import RelationalLearning.Column.Basic
import RelationalLearning.Column.Cast
import RelationalLearning.Column.Checked
import RelationalLearning.Column.Numeric
import RelationalLearning.Column.Operator
import RelationalLearning.Column.Remote
import RelationalLearning.Column.Selection
import RelationalLearning.CommandLine.Arguments
import RelationalLearning.CommandLine.Program
import RelationalLearning.Configuration
import RelationalLearning.DataModel.Container
import RelationalLearning.DataModel.Graph
import RelationalLearning.DataModel.Join
import RelationalLearning.DataModel.Model
import RelationalLearning.DataModel.StarSchema
import RelationalLearning.Decimal.Layout
import RelationalLearning.Decimal.Read
import RelationalLearning.Decimal.Shortest
import RelationalLearning.Description.Basic
import RelationalLearning.Description.Expression
import RelationalLearning.Description.Pipeline
import RelationalLearning.Description.Table
import RelationalLearning.Engine.Frame
import RelationalLearning.Engine.Issue
import RelationalLearning.Engine.Matrix
import RelationalLearning.Engine.Session
import RelationalLearning.Engine.Updating
import RelationalLearning.Engine.World
import RelationalLearning.Error
import RelationalLearning.Index
import RelationalLearning.Json.Basic
import RelationalLearning.Json.Parser
import RelationalLearning.Json.Printer
import RelationalLearning.Json.Record
import RelationalLearning.Json.Written
import RelationalLearning.Literal
import RelationalLearning.Main
import RelationalLearning.Overview.Exchange
import RelationalLearning.Overview.Failure
import RelationalLearning.Overview.Pipeline
import RelationalLearning.Overview.Table
import RelationalLearning.Overview.Value
import RelationalLearning.Pipeline.Aggregation
import RelationalLearning.Pipeline.Blueprint
import RelationalLearning.Pipeline.Feature
import RelationalLearning.Pipeline.Figure
import RelationalLearning.Pipeline.Fitting
import RelationalLearning.Pipeline.Hyperparameter
import RelationalLearning.Pipeline.Importance
import RelationalLearning.Pipeline.Learner
import RelationalLearning.Pipeline.Predictor
import RelationalLearning.Pipeline.Preprocessor
import RelationalLearning.Pipeline.Score
import RelationalLearning.Pipeline.Sql
import RelationalLearning.Project.Listing
import RelationalLearning.Project.Monitor
import RelationalLearning.Proofs.Appearance
import RelationalLearning.Proofs.Arrow.Delimiting
import RelationalLearning.Proofs.Binary64.Addition
import RelationalLearning.Proofs.Binary64.Ceiling
import RelationalLearning.Proofs.Binary64.Large
import RelationalLearning.Proofs.Binary64.Ordering
import RelationalLearning.Proofs.Binary64.Packing
import RelationalLearning.Proofs.Binary64.Quotient
import RelationalLearning.Proofs.Binary64.Rounding
import RelationalLearning.Proofs.Binary64.Special
import RelationalLearning.Proofs.Binary64.Sum
import RelationalLearning.Proofs.Binary64.Whole
import RelationalLearning.Proofs.Binary64.Zero
import RelationalLearning.Proofs.Calendar
import RelationalLearning.Proofs.Column.Addressing
import RelationalLearning.Proofs.Column.Faithful
import RelationalLearning.Proofs.Column.Family
import RelationalLearning.Proofs.Column.KnownLength
import RelationalLearning.Proofs.Column.Named
import RelationalLearning.Proofs.Column.Numeric
import RelationalLearning.Proofs.Column.Plain
import RelationalLearning.Proofs.Column.Reading
import RelationalLearning.Proofs.Column.Resolution
import RelationalLearning.Proofs.Column.Slicing
import RelationalLearning.Proofs.Column.Spacing
import RelationalLearning.Proofs.Column.Typed
import RelationalLearning.Proofs.Column.Upfront
import RelationalLearning.Proofs.DataModel.Admission
import RelationalLearning.Proofs.DataModel.Alike
import RelationalLearning.Proofs.DataModel.Encoding
import RelationalLearning.Proofs.DataModel.Growth
import RelationalLearning.Proofs.DataModel.InStep
import RelationalLearning.Proofs.DataModel.JoinKeys
import RelationalLearning.Proofs.DataModel.NameIndex
import RelationalLearning.Proofs.DataModel.Peripheral
import RelationalLearning.Proofs.DataModel.RandomSplit
import RelationalLearning.Proofs.DataModel.Reading
import RelationalLearning.Proofs.DataModel.Rebinding
import RelationalLearning.Proofs.DataModel.Redundant
import RelationalLearning.Proofs.DataModel.Run
import RelationalLearning.Proofs.DataModel.Sound
import RelationalLearning.Proofs.DataModel.Splitting
import RelationalLearning.Proofs.DataModel.Unfolding
import RelationalLearning.Proofs.Engine.Answering
import RelationalLearning.Proofs.Engine.Commands
import RelationalLearning.Proofs.Engine.Conversation
import RelationalLearning.Proofs.Engine.Emission
import RelationalLearning.Proofs.Engine.Exchange
import RelationalLearning.Proofs.Engine.Frames
import RelationalLearning.Proofs.Engine.Listening
import RelationalLearning.Proofs.Engine.Matrices
import RelationalLearning.Proofs.Engine.Plain
import RelationalLearning.Proofs.Engine.Progress
import RelationalLearning.Proofs.Engine.Reports
import RelationalLearning.Proofs.Engine.Steps
import RelationalLearning.Proofs.Index
import RelationalLearning.Proofs.Json.Covered
import RelationalLearning.Proofs.Json.Field
import RelationalLearning.Proofs.Json.Fixed
import RelationalLearning.Proofs.Json.Lexeme
import RelationalLearning.Proofs.Json.RoundTrip
import RelationalLearning.Proofs.Json.Size
import RelationalLearning.Proofs.Json.Values
import RelationalLearning.Proofs.LocalErrors
import RelationalLearning.Proofs.Operations
import RelationalLearning.Proofs.Outcome
import RelationalLearning.Proofs.Pipeline.Checks
import RelationalLearning.Proofs.Pipeline.Cleanup
import RelationalLearning.Proofs.Pipeline.Commands
import RelationalLearning.Proofs.Pipeline.Described
import RelationalLearning.Proofs.Pipeline.FailedFit
import RelationalLearning.Proofs.Pipeline.Lifetime
import RelationalLearning.Proofs.Pipeline.Loading
import RelationalLearning.Proofs.Pipeline.MissingNumbers
import RelationalLearning.Proofs.Pipeline.Operations
import RelationalLearning.Proofs.Pipeline.PeripheralOrder
import RelationalLearning.Proofs.Pipeline.ProblemKind
import RelationalLearning.Proofs.Pipeline.Ranking
import RelationalLearning.Proofs.Pipeline.Serving
import RelationalLearning.Proofs.Pipeline.TableImportance
import RelationalLearning.Proofs.Pipeline.Written
import RelationalLearning.Proofs.Project.Plain
import RelationalLearning.Proofs.Roles
import RelationalLearning.Proofs.Roles.Map
import RelationalLearning.Proofs.Roles.Readings
import RelationalLearning.Proofs.Source.LocalTable
import RelationalLearning.Proofs.Source.Payload
import RelationalLearning.Proofs.Source.Records
import RelationalLearning.Proofs.Source.Window
import RelationalLearning.Proofs.Staleness
import RelationalLearning.Proofs.Table.Changes
import RelationalLearning.Proofs.Table.Checks
import RelationalLearning.Proofs.Table.Described
import RelationalLearning.Proofs.Table.Dropping
import RelationalLearning.Proofs.Table.Indexing
import RelationalLearning.Proofs.Table.Ingestion
import RelationalLearning.Proofs.Table.LastChange
import RelationalLearning.Proofs.Table.Plain
import RelationalLearning.Proofs.Table.Refreshing
import RelationalLearning.Proofs.Table.Roles
import RelationalLearning.Proofs.Table.Targets
import RelationalLearning.Proofs.Table.Upfront
import RelationalLearning.Proofs.Table.Visibility
import RelationalLearning.Proofs.Text.Pieces
import RelationalLearning.Proofs.Text.Utf8
import RelationalLearning.Proofs.Upfront
import RelationalLearning.Role
import RelationalLearning.Roles
import RelationalLearning.Source.Csv
import RelationalLearning.Source.LocalTable
import RelationalLearning.Source.Records
import RelationalLearning.Subrole
import RelationalLearning.Table.Basic
import RelationalLearning.Table.DataFrame
import RelationalLearning.Table.View
import RelationalLearning.Text.Blank
import RelationalLearning.Text.Hex
import RelationalLearning.Text.Pieces
import RelationalLearning.Text.Quoted
import RelationalLearning.Text.Unprintable
import RelationalLearning.Text.Utf8
import RelationalLearning.TimeUnit
import RelationalLearning.Validation
import RelationalLearning.Yaml.Basic
import RelationalLearning.Yaml.Reader
