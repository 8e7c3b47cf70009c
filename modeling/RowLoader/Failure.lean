import RowLoader.Connection.Url
import RowLoader.KeySpace
import RowLoader.Metrics

/-!
# Failures

Why a load fails, as a type of causes. Each cause has its text, and the chain of the texts below it for a report that shows
the whole chain. `LoadError.precedesWriting` tells the failures that come before any row is written.
-/

namespace RowLoader

/-! ### the database client -/

/-- An error that the server answers with. -/
structure ServerError where
  code : UInt16
  state : String
  message : String
  deriving DecidableEq

def ServerError.text (e : ServerError) : String := s!"ERROR {e.state} ({e.code}): {e.message}"

inductive ClientError where
  | refused (e : ServerError)
  /-- the server closed the connection instead of answering -/
  | dropped
  /-- the connection was found closed by an earlier request -/
  | disconnected
  | unreachable
  /-- there is nothing to connect to -/
  | endpoint (fault : Connection.EndpointFault)
  deriving DecidableEq

namespace ClientError

/-- The texts below an error of the connection itself, innermost last. -/
def transportTexts : ClientError → List String
  | refused _ => []
  | dropped => ["connection closed"]
  | disconnected => ["Driver error: `Connection to the server is closed.'", "Connection to the server is closed."]
  | unreachable => ["Network is unreachable (os error 101)"]
  | endpoint fault => [fault.message]

def message : ClientError → String
  | refused e => s!"Server error: `{e.text}'"
  | e => "Input/output error: Input/output error: " ++ e.transportTexts.headD ""

def sources : ClientError → List String
  | refused e => [e.text]
  | e => ("Input/output error: " ++ e.transportTexts.headD "") :: e.transportTexts

end ClientError

/-! ### refused settings -/

/-- The server's limit on the placeholders of one statement. -/
def placeholderLimit : Nat := 65535

inductive Refusal where
  | blankTable
  | zeroBatch
  | tooManyPlaceholders (batchSize : UInt64) (placeholders columns : Nat)
  | tooManyRows (batchCount batchSize : UInt64)
  | keySpace (e : KeySpaceOverflow)
  | url (e : Connection.UrlError)
  /-- a reason given in words -/
  | stated (reason : String)
  deriving DecidableEq

def Refusal.message : Refusal → String
  | .blankTable => "table name must not be empty"
  | .zeroBatch => "batch size must be at least 1"
  | .tooManyPlaceholders batchSize placeholders columns =>
    s!"batch size {batchSize} needs {placeholders} placeholders for {columns} columns, MySQL allows {placeholderLimit}"
  | .tooManyRows batchCount batchSize => s!"{batchCount} batches of {batchSize} rows overflow the row counter"
  | .keySpace e => e.message
  | .url e => "Invalid MySQL URL: " ++ e.message
  | .stated reason => reason

/-! ### loading -/

inductive LoadError where
  | client (e : ClientError)
  | connect (address : String) (e : ClientError)
  | connection (reason : String)
  | reset (table : String) (cause : LoadError)
  | batch (index offset rows : UInt64) (cause : LoadError)
  | keySpace (e : KeySpaceOverflow)
  | config (r : Refusal)
  deriving DecidableEq

namespace LoadError

def message : LoadError → String
  | client e => "MySQL error: " ++ e.message
  | connect address e => "Failed to connect to MySQL at " ++ address ++ ": " ++ e.message
  | connection reason => "Connection error: " ++ reason
  | reset table cause => "Failed to truncate table '" ++ table ++ "': " ++ cause.message
  | batch index offset rows cause => s!"Batch {index} at offset {offset} ({rows} rows) rolled back: " ++ cause.message
  | keySpace e => "Generator error: " ++ e.message
  | config r => "Configuration error: " ++ r.message

def sources : LoadError → List String
  | client e => e.message :: e.sources
  | keySpace e => [e.message]
  | _ => []

/-- Found before any row is written. -/
def precedesWriting : LoadError → Bool
  | connect .. | reset .. | config .. => true
  | _ => false

end LoadError

/-- A run that stopped, with the counters up to then. -/
structure Aborted where
  metrics : Metrics
  error : LoadError
  deriving DecidableEq

def Aborted.message (a : Aborted) : String :=
  s!"Load aborted after {a.metrics.written} committed rows: " ++ a.error.message

end RowLoader
