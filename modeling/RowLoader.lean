import RowLoader.Main
import RowLoader.Server.Recording
import RowLoader.Sink.Counting
import RowLoader.Proofs.Generator.Batches
import RowLoader.Proofs.Generator.DistinctKeys
import RowLoader.Proofs.Loader.Course
import RowLoader.Proofs.Loader.Recorded
import RowLoader.Proofs.Loader.Validated
import RowLoader.Proofs.Sink.Keyed
import RowLoader.Proofs.Loader.Keyed
import RowLoader.Proofs.Loader.CallOrder
import RowLoader.Proofs.Server.Rollback
import RowLoader.Proofs.Loader.Acknowledged
import RowLoader.Proofs.Loader.History
import RowLoader.Proofs.Command.Generate
import RowLoader.Proofs.Connection.Mask
import RowLoader.Proofs.Loader.Resume
import RowLoader.Proofs.Sql.Grammar
import RowLoader.Proofs.Sql.Parameters
import RowLoader.Proofs.Generator.Overflow
import RowLoader.Proofs.Plan.Refusal
import RowLoader.Proofs.Server.Executed
import RowLoader.Proofs.Command.DryRun
import RowLoader.Proofs.Loader.SameRows
import RowLoader.Proofs.Sql.Quoting
import RowLoader.Proofs.Connection.Schemeless
import RowLoader.Proofs.Timestamp.Reader
import RowLoader.Proofs.Sql.Dates
import RowLoader.Proofs.Command.JsonLines
import RowLoader.Proofs.CommandLine.PlanArguments
import RowLoader.Proofs.Loader.Seeds
