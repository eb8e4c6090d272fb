import GrowthGauge.Service.Response
import GrowthGauge.Field.Record
import GrowthGauge.Pattern.Ends
import GrowthGauge.Proofs.Nesting.BraceReading
import GrowthGauge.Proofs.Nesting.ColumnReading
import GrowthGauge.Proofs.Outline.Agreement
import GrowthGauge.Proofs.Assistant.Attempts
import GrowthGauge.Proofs.Assistant.Escapes
import GrowthGauge.Proofs.Service.InternalError
import GrowthGauge.Proofs.Spacing.Respaced
import GrowthGauge.Proofs.Spacing.Running
import GrowthGauge.Proofs.Pattern.Occurring
import GrowthGauge.Proofs.Spacing.Calls
import GrowthGauge.Proofs.Spacing.Declarations
import GrowthGauge.Proofs.Spacing.Hints
import GrowthGauge.Proofs.Spacing.Invariance
import GrowthGauge.Proofs.Nesting.Counting
import GrowthGauge.Proofs.Pattern.Marking
import GrowthGauge.Proofs.Signals.Consistency
import GrowthGauge.Proofs.Assistant.LifeCycle
import GrowthGauge.Proofs.Service.Modes
import GrowthGauge.Proofs.Service.Availability
import GrowthGauge.Proofs.Signals.Loopless
import GrowthGauge.Proofs.Analysis.Outcomes
import GrowthGauge.Proofs.Nesting.BracePlacement
import GrowthGauge.Proofs.Assistant.EmbeddedAnswer
import GrowthGauge.Proofs.Decision.Evidence
import GrowthGauge.Proofs.Decision.Premise
import GrowthGauge.Proofs.Layout.HeaderLine
import GrowthGauge.Proofs.Layout.LineByLine
import GrowthGauge.Proofs.Loop.Literal
import GrowthGauge.Proofs.Loop.LiteralPattern
import GrowthGauge.Proofs.Loop.Refilled
import GrowthGauge.Proofs.Nesting.LiteralContents
import GrowthGauge.Proofs.Nesting.Chunks
import GrowthGauge.Proofs.Halving.Operation
import GrowthGauge.Proofs.Calls.Accounting
import GrowthGauge.Proofs.Nesting.Comments
import GrowthGauge.Proofs.Settings.Origins
import GrowthGauge.Proofs.Assistant.RescuedTerm
import GrowthGauge.Proofs.Calls.PointerMark
