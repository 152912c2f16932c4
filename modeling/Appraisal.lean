import Appraisal.Breaker
import Appraisal.Cause
import Appraisal.Classification
import Appraisal.Classification.Classifier
import Appraisal.Classification.Remote
import Appraisal.Condition.Evaluation
import Appraisal.Condition.Expression
import Appraisal.Condition.Fault
import Appraisal.Condition.Lexer
import Appraisal.Condition.Parser
import Appraisal.Condition.Record
import Appraisal.Condition.Stack
import Appraisal.Condition.Token
import Appraisal.Datum
import Appraisal.Datum.Conversion
import Appraisal.Datum.Display
import Appraisal.Datum.Record
import Appraisal.Framework
import Appraisal.Framework.Record
import Appraisal.Json.Reader
import Appraisal.Json.Writer
import Appraisal.Log.Entry
import Appraisal.Log.Record
import Appraisal.Log.Style
import Appraisal.Log.Template
import Appraisal.Number
import Appraisal.Number.Arithmetic
import Appraisal.Number.Decimal
import Appraisal.Number.Double
import Appraisal.Number.Extent
import Appraisal.Number.Reading
import Appraisal.Number.Rounding
import Appraisal.Number.Shortest
import Appraisal.Policy.Category
import Appraisal.Policy.Dimension
import Appraisal.Policy.Gates
import Appraisal.Policy.Weights
import Appraisal.Proofs.Breaker.Cooling
import Appraisal.Proofs.Breaker.Looks
import Appraisal.Proofs.Breaker.Probes
import Appraisal.Proofs.Breaker.Streak
import Appraisal.Proofs.Classification.Fallback
import Appraisal.Proofs.Condition.Calls
import Appraisal.Proofs.Condition.Comparison
import Appraisal.Proofs.Condition.Composition
import Appraisal.Proofs.Condition.Judgement
import Appraisal.Proofs.Condition.Selection
import Appraisal.Proofs.Condition.Shape
import Appraisal.Proofs.Condition.Splitting
import Appraisal.Proofs.Condition.Stack
import Appraisal.Proofs.Condition.View
import Appraisal.Proofs.Number.Undefined
import Appraisal.Proofs.Policy.Signs
import Appraisal.Proofs.Policy.Weights
import Appraisal.Proofs.Rule.Context
import Appraisal.Proofs.Rule.Isolation
import Appraisal.Proofs.Rule.View
import Appraisal.Proofs.RuleBook.Active
import Appraisal.Proofs.RuleBook.Desk
import Appraisal.Proofs.RuleBook.Lifetime
import Appraisal.Proofs.RuleBook.Roster
import Appraisal.Proofs.RuleBook.Trail
import Appraisal.Proofs.Scoring.Outcome
import Appraisal.Proofs.Scoring.Range
import Appraisal.Proofs.Service.Assessment
import Appraisal.Proofs.Service.Counts
import Appraisal.Proofs.Service.Extras
import Appraisal.Proofs.Simulation.Bands
import Appraisal.Proofs.Simulation.Walk
import Appraisal.Proofs.Statistics.LeastSquares
import Appraisal.Proofs.Statistics.Samples
import Appraisal.Proofs.Verdict.Incomplete
import Appraisal.Proofs.Verdict.Worst
import Appraisal.Rule
import Appraisal.Rule.Context
import Appraisal.Rule.Decoding
import Appraisal.Rule.Encoding
import Appraisal.Rule.Firing
import Appraisal.RuleBook.Basic
import Appraisal.RuleBook.Ledger
import Appraisal.RuleBook.Memory
import Appraisal.RuleBook.Store
import Appraisal.RuleBook.Table
import Appraisal.Scoring.Outcome
import Appraisal.Scoring.Record
import Appraisal.Service
import Appraisal.Service.Assessment
import Appraisal.Settings
import Appraisal.Simulation.Draws
import Appraisal.Simulation.Payback
import Appraisal.Simulation.Ratio
import Appraisal.Simulation.Record
import Appraisal.Statistics.Comparison
import Appraisal.Statistics.Fault
import Appraisal.Statistics.Regression
import Appraisal.Text.Character
import Appraisal.Text.Hexadecimal
import Appraisal.Text.Parts
import Appraisal.Text.Percent
import Appraisal.Text.Quoted
import Appraisal.Text.Ranges
import Appraisal.Time.Calendar
import Appraisal.Time.Instant
import Appraisal.Time.Stamp
import Appraisal.Validation.Field
import Appraisal.Validation.Problem
import Appraisal.Validation.Record
import Appraisal.Verdict
import Appraisal.Verdict.Record
import Appraisal.Web.Answer
import Appraisal.Web.Request
import Appraisal.Web.Response
import Appraisal.Web.Route
