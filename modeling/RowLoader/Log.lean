import RowLoader.Failure
import RowLoader.Plan
import RowLoader.Record
import RowLoader.Text.Control

/-!
# Log

What the library reports while it works: events with a level and a text.
-/

namespace RowLoader

inductive Level where
  | error
  | warn
  | info
  | debug
  deriving DecidableEq

namespace Level

def name : Level → String
  | error => "ERROR"
  | warn => "WARN"
  | info => "INFO"
  | debug => "DEBUG"

/-- Higher levels say more. -/
def rank : Level → Nat
  | error => 1
  | warn => 2
  | info => 3
  | debug => 4

end Level

inductive Event where
  /-- a run of `batchCount` batches begins -/
  | loading (batchCount batchSize : UInt64) (table : String) (p : Profile) (offset : UInt64)
  | executing (mode : WriteVerb) (rows parameters : Nat)
  | committed (index offset rowsSoFar : UInt64)
  | rolledBack (index offset rows : UInt64) (cause : LoadError)
  | loaded (m : Metrics)
  | truncating (table : String)
  | truncateFailed (table : String) (cause : LoadError)
  | connecting (address : String)
  | sending (statement : String)
  | rollbackFailed (cause : ClientError)
  | disconnecting
  | closeFailed (cause : LoadError)
  | stopped (m : Metrics)
  | refused (cause : LoadError)
  | counted (table : String) (rows : UInt64)
  | miscounted (table : String) (rows written : UInt64)
  | generating (count : UInt64) (p : Profile) (start seed : UInt64)
  | wouldLoad (plan : LoadPlan)
  | wouldConnect (address : String)
  | wouldTruncate (truncate : Bool)
  | wouldStart (r : Record)

namespace Event

def level : Event → Level
  | rolledBack .. | truncateFailed .. | stopped .. | refused .. => .error
  | rollbackFailed .. | closeFailed .. | miscounted .. => .warn
  | executing .. | sending .. | disconnecting | generating .. => .debug
  | _ => .info

def message : Event → String
  | loading batchCount batchSize table p offset =>
    s!"Loading {batchCount} batches of {batchSize} rows into '{table}' ({p.name} profile, starting at offset {offset})"
  | executing mode rows parameters => s!"Executing {mode.keyword} of {rows} rows ({parameters} parameters)"
  | committed index offset rowsSoFar => s!"Batch {index} committed: offset {offset}, {rowsSoFar} rows written"
  | rolledBack index offset rows cause =>
    s!"Batch {index} at offset {offset} rolled back ({rows} rows): " ++ cause.message
  | loaded m =>
    s!"Load complete: {m.written} rows in {m.elapsed.text} (" ++ Decimal.fixedText m.throughput 2 ++
      " rows/sec)"
  | truncating table => "Truncating table: " ++ table
  | truncateFailed table cause => s!"Failed to truncate table '{table}': " ++ cause.message
  | connecting address => "Connecting to MySQL at " ++ address
  | sending statement => "SQL: " ++ statement
  | rollbackFailed cause => "Rollback failed: " ++ cause.message
  | disconnecting => "Disconnecting from MySQL"
  | closeFailed cause => "Failed to close MySQL connection: " ++ cause.message
  | stopped m => m.summary
  | refused cause => "Load refused before writing any row: " ++ cause.message
  | counted table rows => s!"Table '{table}' holds {rows} rows"
  | miscounted table rows written => s!"Table '{table}' holds {rows} rows after writing {written}"
  | generating count p start seed => s!"Generating {count} {p.name} records from offset {start} (seed={seed})"
  | wouldLoad plan =>
    s!"[DRY-RUN] Would {plan.profile.verb.keyword} {plan.batchCount} batches of {plan.batchSize} rows into " ++
      s!"'{plan.table}' ({plan.rows} rows, profile={plan.profile.name}, seed={plan.seed})"
  | wouldConnect address => "[DRY-RUN] Connection: " ++ address
  | wouldTruncate truncate => s!"[DRY-RUN] Truncate first: {truncate}"
  | wouldStart r => "[DRY-RUN] First record: " ++ r.display

/-- The text as the program prints it, unable to steer a terminal. -/
def shown (e : Event) : String := Text.showControls e.message

/-- Level and text, as one line. -/
def line (e : Event) : String := e.level.name ++ " " ++ e.shown

end Event

abbrev Log := Array Event

end RowLoader
