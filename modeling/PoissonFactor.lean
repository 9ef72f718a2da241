import PoissonFactor.CommandLine.Options
import PoissonFactor.CommandLine.Run
import PoissonFactor.Decimal.Binary
import PoissonFactor.Decimal.Digits
import PoissonFactor.Decimal.Notation
import PoissonFactor.Decimal.Scaled
import PoissonFactor.Failure
import PoissonFactor.Files.Path
import PoissonFactor.Files.Tree
import PoissonFactor.Literal.Escape
import PoissonFactor.Literal.Evaluate
import PoissonFactor.Literal.Expr
import PoissonFactor.Literal.Token
import PoissonFactor.Main
import PoissonFactor.Model.Columns
import PoissonFactor.Model.Engine
import PoissonFactor.Model.Rows
import PoissonFactor.Model.Scalar
import PoissonFactor.Model.Softmax
import PoissonFactor.Model.Special
import PoissonFactor.Model.Start
import PoissonFactor.Model.State
import PoissonFactor.Model.Table
import PoissonFactor.Model.Weights
import PoissonFactor.MovieLens.Download
import PoissonFactor.MovieLens.Run
import PoissonFactor.Pipeline.Configured
import PoissonFactor.Pipeline.Evaluate
import PoissonFactor.Pipeline.Reporting
import PoissonFactor.Power
import PoissonFactor.Proofs.Decimal.Arithmetic
import PoissonFactor.Proofs.Decimal.Bits
import PoissonFactor.Proofs.Decimal.FewDigits
import PoissonFactor.Proofs.Decimal.Packed
import PoissonFactor.Proofs.Decimal.Rounding
import PoissonFactor.Proofs.Decimal.Scaled
import PoissonFactor.Proofs.Decimal.Shortest
import PoissonFactor.Proofs.Files.Tree
import PoissonFactor.Proofs.Literal.Number
import PoissonFactor.Proofs.Literal.Quoted
import PoissonFactor.Proofs.Literal.ReadBack
import PoissonFactor.Proofs.Model.Ascent
import PoissonFactor.Proofs.Model.Columns
import PoissonFactor.Proofs.Model.Coordinate
import PoissonFactor.Proofs.Model.Draws
import PoissonFactor.Proofs.Model.Entries
import PoissonFactor.Proofs.Model.Evidence
import PoissonFactor.Proofs.Model.Likelihood
import PoissonFactor.Proofs.Model.LogGamma
import PoissonFactor.Proofs.Model.Mass
import PoissonFactor.Proofs.Model.Normalize
import PoissonFactor.Proofs.Model.PairWeight
import PoissonFactor.Proofs.Model.Phases
import PoissonFactor.Proofs.Model.Positivity
import PoissonFactor.Proofs.Model.Range
import PoissonFactor.Proofs.Model.Real
import PoissonFactor.Proofs.Model.Relabel
import PoissonFactor.Proofs.Model.Softmax
import PoissonFactor.Proofs.MovieLens.Download
import PoissonFactor.Proofs.MovieLens.Rerun
import PoissonFactor.Proofs.MovieLens.Standard
import PoissonFactor.Proofs.Outcome
import PoissonFactor.Proofs.Pipeline.Arithmetic
import PoissonFactor.Proofs.Pipeline.Delivery
import PoissonFactor.Proofs.Pipeline.Isolation
import PoissonFactor.Proofs.Pipeline.Reporting
import PoissonFactor.Proofs.Pipeline.Sound
import PoissonFactor.Proofs.Ratings.Bijection
import PoissonFactor.Proofs.Ratings.Holdout
import PoissonFactor.Proofs.Ratings.KeyIndex
import PoissonFactor.Proofs.Ratings.LeastSize
import PoissonFactor.Proofs.Ratings.Limit
import PoissonFactor.Proofs.Ratings.Load
import PoissonFactor.Proofs.Ratings.Rank
import PoissonFactor.Proofs.Ratings.Rows
import PoissonFactor.Proofs.Settings.Layout
import PoissonFactor.Proofs.Settings.Sections
import PoissonFactor.Proofs.Settings.Spelling
import PoissonFactor.Proofs.Settings.Unset
import PoissonFactor.Proofs.Table.Column
import PoissonFactor.Proofs.Table.Delimited
import PoissonFactor.Proofs.Table.Exact
import PoissonFactor.Proofs.Table.Format
import PoissonFactor.Proofs.Table.Frame
import PoissonFactor.Proofs.Table.NumberText
import PoissonFactor.Proofs.Table.Records
import PoissonFactor.Proofs.Table.Written
import PoissonFactor.Proofs.Text.Blank
import PoissonFactor.Proofs.Text.Printable
import PoissonFactor.Proofs.Text.Utf8
import PoissonFactor.Proofs.Training.Admission
import PoissonFactor.Proofs.Training.Aggregation
import PoissonFactor.Proofs.Training.Ascent
import PoissonFactor.Proofs.Training.Backends
import PoissonFactor.Proofs.Training.Conservation
import PoissonFactor.Proofs.Training.Faults
import PoissonFactor.Proofs.Training.Finish
import PoissonFactor.Proofs.Training.Fit
import PoissonFactor.Proofs.Training.Guards
import PoissonFactor.Proofs.Training.Isolation
import PoissonFactor.Proofs.Training.Make
import PoissonFactor.Proofs.Training.Refinement
import PoissonFactor.Proofs.Training.Reuse
import PoissonFactor.Proofs.Training.RowNumbers
import PoissonFactor.Proofs.Training.Safety
import PoissonFactor.Proofs.Training.Settings
import PoissonFactor.Proofs.Training.Signal
import PoissonFactor.Proofs.Training.Steps
import PoissonFactor.Proofs.Training.Stopping
import PoissonFactor.Proofs.Training.Symmetry
import PoissonFactor.Proofs.Training.Trace
import PoissonFactor.Proofs.Value.Number
import PoissonFactor.Proofs.Value.Order
import PoissonFactor.Proofs.Value.Ranking
import PoissonFactor.Proofs.Value.Same
import PoissonFactor.Random.Digest
import PoissonFactor.Random.Shuffle
import PoissonFactor.Random.Twister
import PoissonFactor.Random.Uniform
import PoissonFactor.Ratings.Holdout
import PoissonFactor.Ratings.KeyIndex
import PoissonFactor.Ratings.Load
import PoissonFactor.Ratings.Split
import PoissonFactor.Report.Json
import PoissonFactor.Report.Save
import PoissonFactor.Settings.Coercion
import PoissonFactor.Settings.Defaults
import PoissonFactor.Settings.Load
import PoissonFactor.Settings.Sections
import PoissonFactor.Table.Column
import PoissonFactor.Table.Delimited
import PoissonFactor.Table.Frame
import PoissonFactor.Table.Library
import PoissonFactor.Table.Records
import PoissonFactor.Text.Blank
import PoissonFactor.Text.Names
import PoissonFactor.Text.Points
import PoissonFactor.Text.Printable
import PoissonFactor.Text.Quoted
import PoissonFactor.Text.Utf8
import PoissonFactor.Training.Arithmetic
import PoissonFactor.Training.Draw
import PoissonFactor.Training.Loop
import PoissonFactor.Training.Report
import PoissonFactor.Training.Session
import PoissonFactor.Training.Settings
import PoissonFactor.Training.Stopping
import PoissonFactor.Training.Trainer
import PoissonFactor.Value.Basic
import PoissonFactor.Value.Number
import PoissonFactor.Value.Numeral
import PoissonFactor.Value.Order
