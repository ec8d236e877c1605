import TagRules.Command.Arguments
import TagRules.Command.Basic
import TagRules.Command.Files
import TagRules.Command.Run
import TagRules.Dict
import TagRules.Engine.Basic
import TagRules.Engine.FollowUp
import TagRules.Engine.Timings
import TagRules.Eval.Evaluate
import TagRules.Eval.Services
import TagRules.Eval.Settings
import TagRules.Expr.Basic
import TagRules.Expr.Builtin
import TagRules.Expr.Compiler
import TagRules.Expr.Error
import TagRules.Expr.Keyword
import TagRules.Expr.Quote
import TagRules.Expr.Setting
import TagRules.Json.Basic
import TagRules.Json.Decode
import TagRules.Json.Reader
import TagRules.Json.Writer
import TagRules.Main
import TagRules.Number.Decimal
import TagRules.Number.Digits
import TagRules.Number.Double
import TagRules.Pattern.Basic
import TagRules.Pattern.Bracket
import TagRules.Pattern.Escape
import TagRules.Pattern.Flags
import TagRules.Pattern.Form
import TagRules.Pattern.Reader
import TagRules.Pattern.Search
import TagRules.Pattern.Size
import TagRules.Registry.Activity
import TagRules.Registry.Basic
import TagRules.Registry.Constraint
import TagRules.Registry.Gate
import TagRules.Registry.Options
import TagRules.Registry.Resolve
import TagRules.Report.Basic
import TagRules.Report.Style
import TagRules.Report.Text
import TagRules.Rules.Apply
import TagRules.Rules.Basic
import TagRules.Rules.Decode
import TagRules.Subject.Basic
import TagRules.Subject.Decode
import TagRules.Tag.Basic
import TagRules.Tag.Store
import TagRules.Text.Age
import TagRules.Text.Blank
import TagRules.Text.Category
import TagRules.Text.Folding
import TagRules.Text.Letters
import TagRules.Text.Property
import TagRules.Text.PropertyName
import TagRules.Text.Ranges
import TagRules.Text.Script
import TagRules.Text.Search
import TagRules.Text.Segmentation
import TagRules.Text.Utf8
import TagRules.Time.Calendar
import TagRules.Time.Instant
import TagRules.Time.Rfc3339
import TagRules.Toml.Basic
import TagRules.Toml.Moment
import TagRules.Toml.Number
import TagRules.Toml.Quoted
import TagRules.Toml.Reader
import TagRules.Toml.Settings
import TagRules.Toml.Tree
import TagRules.Proofs.Eval.Reading
import TagRules.Proofs.Eval.Static
import TagRules.Proofs.Registry.Pass
import TagRules.Proofs.Registry.Progress
import TagRules.Proofs.Registry.Justified
import TagRules.Proofs.Registry.Requests
import TagRules.Proofs.Engine.History
import TagRules.Proofs.Engine.Justified
import TagRules.Proofs.Expr.Invariant
import TagRules.Proofs.Expr.Dependencies
import TagRules.Proofs.Registry.Settled
import TagRules.Proofs.Registry.OnePass
import TagRules.Proofs.Registry.Prepared
import TagRules.Proofs.Registry.Firm
import TagRules.Proofs.Number.RoundTrip
import TagRules.Proofs.Expr.Parts
import TagRules.Proofs.Expr.Flat
import TagRules.Proofs.Expr.Formed
import TagRules.Proofs.Expr.Token
import TagRules.Proofs.Expr.Pieces
import TagRules.Proofs.Expr.Tier
import TagRules.Proofs.Expr.Inverse
import TagRules.Proofs.Expr.Canonical
import TagRules.Proofs.Expr.Comparison
import TagRules.Proofs.Expr.Precedence
import TagRules.Proofs.Expr.Shaped
import TagRules.Proofs.Expr.FixedPoint
import TagRules.Proofs.Eval.Strict
import TagRules.Proofs.Expr.Typing
import TagRules.Proofs.Registry.Deferral
import TagRules.Proofs.Registry.Evaluations
import TagRules.Proofs.Engine.Evaluated
import TagRules.Proofs.Expr.Names
import TagRules.Proofs.Rules.Declared
import TagRules.Proofs.Rules.Stratified
import TagRules.Proofs.Registry.Sweeps
import TagRules.Proofs.Rules.Enrolled
import TagRules.Proofs.Rules.Applied
import TagRules.Proofs.Rules.Order
import TagRules.Proofs.Rules.Stable
import TagRules.Proofs.Registry.Steps
import TagRules.Proofs.Engine.Rounds
import TagRules.Proofs.Engine.Cooldown
import TagRules.Proofs.Engine.Lifetime
import TagRules.Proofs.Eval.Stamps
import TagRules.Proofs.Registry.Separate
import TagRules.Proofs.Expr.Lockstep
import TagRules.Proofs.Expr.Storeless
import TagRules.Proofs.Eval.Course
import TagRules.Proofs.Eval.Timeless
import TagRules.Proofs.Registry.Touched
import TagRules.Proofs.Eval.Trace
import TagRules.Proofs.Eval.Afresh
import TagRules.Proofs.Registry.Resolution
import TagRules.Proofs.Engine.Idle
import TagRules.Proofs.Eval.Calls
import TagRules.Proofs.Eval.Inquiries
import TagRules.Proofs.Expr.Fuel
import TagRules.Proofs.Expr.Lossless
import TagRules.Proofs.Expr.Weight
import TagRules.Proofs.Expr.Termination
import TagRules.Proofs.Expr.Outside
import TagRules.Proofs.Expr.Spacing
import TagRules.Proofs.Expr.Drawn
import TagRules.Proofs.Expr.Verbatim
import TagRules.Proofs.Expr.Acts
import TagRules.Proofs.Expr.Term
import TagRules.Proofs.Expr.Sugar
import TagRules.Proofs.Expr.Printed
import TagRules.Proofs.Expr.Edges
import TagRules.Proofs.Eval.Independence
import TagRules.Proofs.Eval.ShortCircuit
import TagRules.Proofs.Expr.Literal
import TagRules.Proofs.Eval.Frame
import TagRules.Proofs.Registry.Moves
import TagRules.Proofs.Registry.Vanished
import TagRules.Proofs.Registry.Diagnostics
import TagRules.Proofs.Expr.Placeholder
import TagRules.Proofs.Expr.Carried
import TagRules.Proofs.Expr.Listing
import TagRules.Proofs.Registry.Window
import TagRules.Proofs.Tag.Views
import TagRules.Proofs.Expr.Leftmost
import TagRules.Proofs.Registry.Setting
import TagRules.Proofs.Registry.Resubmission
