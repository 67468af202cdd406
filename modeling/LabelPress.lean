import LabelPress.Main
import LabelPress.Proofs.Text.Trim
import LabelPress.Proofs.Expr.Scan
import LabelPress.Proofs.Expr.Argument
import LabelPress.Proofs.Expr.Mark
import LabelPress.Proofs.Expr.Parse
import LabelPress.Proofs.Expr.Written
import LabelPress.Proofs.Row
import LabelPress.Proofs.Expr.Alternative
import LabelPress.Proofs.Template.Spans
import LabelPress.Proofs.Template.Cuts
import LabelPress.Proofs.Print.Framing
import LabelPress.Proofs.Label.Frames
import LabelPress.Proofs.Number.Double
import LabelPress.Proofs.Print.Dots
import LabelPress.Proofs.Print.Fit
import LabelPress.Proofs.Label.Content
import LabelPress.Proofs.Label.Rendering
import LabelPress.Proofs.Template.Alternative
import LabelPress.Proofs.Template.Chain
import LabelPress.Proofs.Template.Default
import LabelPress.Proofs.Template.QuotedArguments
import LabelPress.Proofs.Expr.Embedding
import LabelPress.Proofs.Expr.Commas
import LabelPress.Proofs.Expr.Closing
import LabelPress.Proofs.Label.Batch
import LabelPress.Proofs.Label.Pool
import LabelPress.Proofs.Expr.ErrorMarker
import LabelPress.Proofs.Template.View
import LabelPress.Proofs.Row.Record
import LabelPress.Proofs.Label.Independence
import LabelPress.Proofs.Session
import LabelPress.Proofs.Label.DrawingOrder
import LabelPress.Proofs.Workspace.FileTree
import LabelPress.Proofs.Workspace.Load
import LabelPress.Proofs.CommandLine.Arguments
import LabelPress.Proofs.CommandLine.Run
import LabelPress.Proofs.Settings.Environment
import LabelPress.Proofs.Template.Padding
import LabelPress.Proofs.Number.Order
import LabelPress.Proofs.Expr.Condition
import LabelPress.Proofs.Template.Choice
import LabelPress.Proofs.Number.Numeral
import LabelPress.Proofs.Number.Whole
import LabelPress.Proofs.Number.Nearest
import LabelPress.Proofs.Number.HalfUp
import LabelPress.Proofs.Calendar.Date
import LabelPress.Proofs.Text.Pass
import LabelPress.Proofs.Calendar.Pass
import LabelPress.Proofs.Calendar.Pattern
import LabelPress.Proofs.Expr.Comparison
import LabelPress.Proofs.Template.AddedDays
import LabelPress.Proofs.Expr.Lot
import LabelPress.Proofs.Expr.Counter
import LabelPress.Proofs.Label.Source
import LabelPress.Proofs.Label.Assignment
import LabelPress.Proofs.Label.Nulls
import LabelPress.Proofs.Label.Lines
import LabelPress.Proofs.Print.Threshold
import LabelPress.Proofs.Print.Turning
import LabelPress.Proofs.Print.Measuring
import LabelPress.Proofs.Label.Shrinking
import LabelPress.Proofs.Number.Truncation
import LabelPress.Proofs.Number.Fixed
import LabelPress.Proofs.Expr.FixedPlaces
import LabelPress.Proofs.Workspace.Reload
import LabelPress.Proofs.Settings.Levels
import LabelPress.Proofs.Number.Longest
import LabelPress.Proofs.Expr.Reading
import LabelPress.Proofs.Expr.EmptyArgument
