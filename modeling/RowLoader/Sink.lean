import RowLoader.Log
import RowLoader.Sql.Statement

/-!
# Sinks

A sink is where batches go: a state with one operation per call of the load. Nothing is assumed of the answers, which may
depend on the whole history. `Recording` keeps the calls that reach a sink.
-/

namespace RowLoader

structure Reply (σ α : Type) where
  answer : Except LoadError α
  sink : σ
  log : Log := #[]

class Sink (σ : Type) where
  truncate (s : σ) (table : String) : Reply σ Unit
  /-- One statement in a transaction of its own; the answer is the number of rows written. -/
  write (s : σ) (statement : Sql.Statement) : Reply σ UInt64
  count (s : σ) (table : String) : Reply σ UInt64
  close (s : σ) : Reply σ Unit

/-! ### recording -/

inductive SinkCall where
  | truncate (table : String)
  | write (statement : Sql.Statement)
  | count (table : String)
  | close
  deriving DecidableEq

structure Recording (σ : Type) where
  sink : σ
  calls : Array SinkCall := #[]

namespace Recording

variable {σ α : Type}

/-- Adds a call to the record of what came before its reply. -/
def after (before : Recording σ) (call : SinkCall) (r : Reply σ α) : Reply (Recording σ) α :=
  ⟨r.answer, ⟨r.sink, before.calls.push call⟩, r.log⟩

instance [Sink σ] : Sink (Recording σ) where
  truncate s table := s.after (.truncate table) (Sink.truncate s.sink table)
  write s statement := s.after (.write statement) (Sink.write s.sink statement)
  count s table := s.after (.count table) (Sink.count s.sink table)
  close s := s.after .close (Sink.close s.sink)

end Recording

end RowLoader
