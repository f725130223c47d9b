import LinearPrograms.Main
import LinearPrograms.Engine.Scripted
import LinearPrograms.Knowledge.Base
import LinearPrograms.Proofs.Action.Computation
import LinearPrograms.Proofs.Action.Ending
import LinearPrograms.Proofs.Action.Alike
import LinearPrograms.Proofs.Scalar.Exact
import LinearPrograms.Proofs.Scalar.Opposite
import LinearPrograms.Proofs.Scalar.Fixed
import LinearPrograms.Proofs.Scalar.Range
import LinearPrograms.Proofs.Tensor.Shape
import LinearPrograms.Proofs.Tensor.Rows
import LinearPrograms.Proofs.Json.Nesting
import LinearPrograms.Proofs.Engine.Formed
import LinearPrograms.Proofs.Engine.Atomic
import LinearPrograms.Proofs.Engine.Selection
import LinearPrograms.Proofs.Engine.Stated
import LinearPrograms.Proofs.Engine.SameProblem
import LinearPrograms.Proofs.Engine.Running
import LinearPrograms.Proofs.Engine.Sensitivities
import LinearPrograms.Proofs.Engine.Certificate
import LinearPrograms.Proofs.Document.Numbers
import LinearPrograms.Proofs.Engine.Agreement
import LinearPrograms.Proofs.Engine.Soundness
import LinearPrograms.Proofs.Engine.Histories
import LinearPrograms.Proofs.Engine.Summary
import LinearPrograms.Proofs.Engine.Available
import LinearPrograms.Proofs.Engine.Domains
import LinearPrograms.Proofs.Engine.MissingValues
import LinearPrograms.Proofs.Engine.Mirrored
import LinearPrograms.Proofs.Solve.Admission
import LinearPrograms.Proofs.Solve.Feasible
import LinearPrograms.Proofs.Solve.Formulating
import LinearPrograms.Proofs.Solve.Optimality
import LinearPrograms.Proofs.Solve.Calls
import LinearPrograms.Proofs.Solve.Posed
import LinearPrograms.Proofs.Solve.Attempts
import LinearPrograms.Proofs.Solve.Runs
import LinearPrograms.Proofs.Solve.Handover
import LinearPrograms.Proofs.Solve.Mismatched
import LinearPrograms.Proofs.Solve.Collecting
import LinearPrograms.Proofs.Solve.Shown
import LinearPrograms.Proofs.Outcome.Views
import LinearPrograms.Proofs.Problem.Refusal
import LinearPrograms.Proofs.Problem.Relations
import LinearPrograms.Proofs.CommandLine.Endings
import LinearPrograms.Proofs.CommandLine.Options
import LinearPrograms.Proofs.Problem.Format
import LinearPrograms.Proofs.CommandLine.Precedence
import LinearPrograms.Proofs.Problem.OutOfRange
import LinearPrograms.Proofs.Text.Numerals
import LinearPrograms.Proofs.Problem.NumberPlaces
import LinearPrograms.Proofs.Files.Places
import LinearPrograms.Proofs.Knowledge.Storages
import LinearPrograms.Proofs.Knowledge.Interchange
import LinearPrograms.Proofs.Knowledge.Sharing
import LinearPrograms.Proofs.Knowledge.FailedSave
import LinearPrograms.Proofs.Knowledge.Configured
