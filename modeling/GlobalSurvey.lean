import GlobalSurvey.Main
import GlobalSurvey.Service.Analyze
import GlobalSurvey.Proofs.Text.Utf8
import GlobalSurvey.Proofs.Report.Order
import GlobalSurvey.Proofs.Files.Location
import GlobalSurvey.Proofs.Files.Resolution
import GlobalSurvey.Proofs.Files.Room
import GlobalSurvey.Proofs.Files.Frame
import GlobalSurvey.Proofs.Report.Merge
import GlobalSurvey.Proofs.Report.LifeCycle
import GlobalSurvey.Proofs.Report.Refinement
import GlobalSurvey.Proofs.Batch.Ledger
import GlobalSurvey.Proofs.Batch.Progress
import GlobalSurvey.Proofs.Batch.Alone
import GlobalSurvey.Proofs.Batch.Interleaving
import GlobalSurvey.Proofs.Batch.Joining
import GlobalSurvey.Proofs.Batch.Partition
import GlobalSurvey.Proofs.Batch.Launch
import GlobalSurvey.Proofs.Batch.Lodging
import GlobalSurvey.Proofs.Batch.Gathering
import GlobalSurvey.Proofs.Batch.Course
import GlobalSurvey.Proofs.Batch.Independence
import GlobalSurvey.Proofs.Batch.Cutting
import GlobalSurvey.Proofs.Batch.Accounting
import GlobalSurvey.Proofs.Batch.Cancellation
import GlobalSurvey.Proofs.Globals.Binding
import GlobalSurvey.Proofs.Globals.Walk
import GlobalSurvey.Proofs.Globals.Extract
import GlobalSurvey.Proofs.Globals.Analyzer
import GlobalSurvey.Proofs.Batch.Sources
import GlobalSurvey.Proofs.Batch.Guards
import GlobalSurvey.Proofs.Batch.Heeding
import GlobalSurvey.Proofs.Batch.Refusal
import GlobalSurvey.Proofs.Batch.GivingUp
import GlobalSurvey.Proofs.Batch.Leavings
import GlobalSurvey.Proofs.Batch.Furnishing
import GlobalSurvey.Proofs.Batch.Keeping
import GlobalSurvey.Proofs.Batch.Verdict
import GlobalSurvey.Proofs.Batch.Ending
import GlobalSurvey.Proofs.Batch.Breaking
import GlobalSurvey.Proofs.CommandLine.Conduct
import GlobalSurvey.Proofs.CommandLine.Status
import GlobalSurvey.Proofs.CommandLine.Mishap
import GlobalSurvey.Proofs.Batch.Bookkeeping
import GlobalSurvey.Proofs.Batch.Journal
import GlobalSurvey.Proofs.Batch.Determined
import GlobalSurvey.Proofs.Batch.Memory
import GlobalSurvey.Proofs.Service.History
import GlobalSurvey.Proofs.Files.Names
import GlobalSurvey.Proofs.Files.Parallel
import GlobalSurvey.Proofs.Batch.Likeness
import GlobalSurvey.Proofs.Service.Agreement
import GlobalSurvey.Proofs.CommandLine.Reading
import GlobalSurvey.Proofs.Sorting
import GlobalSurvey.Proofs.Batch.Barrier
import GlobalSurvey.Proofs.Batch.Closing
import GlobalSurvey.Proofs.Report.Facts
import GlobalSurvey.Proofs.Globals.Rearranged
import GlobalSurvey.Proofs.Globals.Filters
import GlobalSurvey.Proofs.Globals.Levels
import GlobalSurvey.Proofs.Text.Codec
import GlobalSurvey.Proofs.Globals.Reading
import GlobalSurvey.Proofs.Text.Order
import GlobalSurvey.Proofs.Report.Spread
import GlobalSurvey.Proofs.Report.Records
import GlobalSurvey.Proofs.Batch.Units
import GlobalSurvey.Proofs.Batch.Tiling
import GlobalSurvey.Proofs.Batch.Offenders
import GlobalSurvey.Proofs.Text.Blank
import GlobalSurvey.Proofs.Files.UnitList
import GlobalSurvey.Proofs.Files.Trees
import GlobalSurvey.Proofs.Files.Search
import GlobalSurvey.Proofs.Batch.Discovery
import GlobalSurvey.Proofs.Text.ByteOrder
import GlobalSurvey.Proofs.Report.TextOrder
import GlobalSurvey.Proofs.Files.Extensions
