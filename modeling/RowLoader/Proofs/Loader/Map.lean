import RowLoader.Proofs.Loader.Course
import RowLoader.Proofs.Sink.Map

/-!
# Loaders seen through a map of sinks

A map that carries the writes of one sink to another carries whole runs, with the course they take: `Loader.run_mapSink`,
`Loader.Course.mapSink`. The generator, the counters and the log never see the sink, so nothing else has to be said about it.
-/

namespace RowLoader

variable {σ τ α : Type}

/-- The loader with its sink seen through a map. -/
def Loader.mapSink (f : σ → τ) (l : Loader σ) : Loader τ := l.withSink (f l.sink)

def Outcome.mapSink (f : σ → τ) (o : Outcome σ α) : Outcome τ α := ⟨o.answer, o.loader.mapSink f, o.log⟩

namespace Loader

/-! ### runs -/

theorem settle_mapSink (f : σ → τ) (l : Loader σ) (m : Metrics) (index offset rows : UInt64) (before : Log)
    (reply : Reply σ UInt64) :
    (l.mapSink f).settle m index offset rows before (reply.mapSink f) =
      (l.settle m index offset rows before reply).map (Outcome.mapSink f) := by
  obtain ⟨answer, sink, log⟩ := reply
  unfold settle
  cases answer with
  | error e =>
    show (m.addFailed rows >>= _) = ((m.addFailed rows >>= _) : Except Trap _).map _
    cases m.addFailed rows with
    | error t => rfl
    | ok m' => rfl
  | ok written =>
    show (m.addWritten rows >>= _) = ((m.addWritten rows >>= _) : Except Trap _).map _
    cases m.addWritten rows with
    | error t => rfl
    | ok m' => rfl

variable [Sink σ] [Sink τ] {f : σ → τ}

theorem store_mapSink (hf : Sink.CarriesWrites f) (l : Loader σ) (m : Metrics) (index : UInt64) (records : List Record) :
    (l.mapSink f).store m index records = (l.store m index records).map (Outcome.mapSink f) := by
  cases records with
  | nil => rfl
  | cons first rest =>
    show (Sql.Statement.ofRecords l.profile.verb l.table l.profile.columns (first :: rest) >>= _) =
      ((Sql.Statement.ofRecords l.profile.verb l.table l.profile.columns (first :: rest) >>= _) : Except Trap _).map _
    cases Sql.Statement.ofRecords l.profile.verb l.table l.profile.columns (first :: rest) with
    | error t => rfl
    | ok statement =>
      have hwrite : Sink.write (l.mapSink f).sink statement = (Sink.write l.sink statement).mapSink f := hf l.sink statement
      simp only [bind, Except.bind, hwrite]
      exact settle_mapSink f l m index first.offset _ _ _

theorem runFrom_mapSink (hf : Sink.CarriesWrites f) (elapsed : Duration) (left : Nat) (index : UInt64) (m : Metrics)
    (l : Loader σ) (log : Log) :
    runFrom elapsed left index m (l.mapSink f) log = (runFrom elapsed left index m l log).map (Outcome.mapSink f) := by
  induction left generalizing index m l log with
  | zero => rfl
  | succ left ih =>
    have hcheck : (l.mapSink f).profile.checkSpan (l.mapSink f).offset (l.mapSink f).batchSize =
      l.profile.checkSpan l.offset l.batchSize := rfl
    have hadvance : (l.mapSink f).generator.advance (l.mapSink f).batchSize = l.generator.advance l.batchSize := rfl
    simp only [runFrom, hcheck, hadvance]
    cases l.profile.checkSpan l.offset l.batchSize with
    | error e => rfl
    | ok =>
      cases l.generator.advance l.batchSize with
      | error t => rfl
      | ok made =>
        obtain ⟨records, generator⟩ := made
        have hstore : store { l.mapSink f with generator := generator } m index records =
          (store { l with generator := generator } m index records).map (Outcome.mapSink f) :=
            store_mapSink hf { l with generator := generator } m index records
        simp only [hstore]
        cases store { l with generator := generator } m index records with
        | error t => rfl
        | ok stored =>
          obtain ⟨⟨answer, m'⟩, l', more⟩ := stored
          cases answer with
          | error e => rfl
          | ok written => exact ih (index + 1) m' l' (log ++ more)

/-- **Runs are carried over.** A run over the image of a sink is the image of the run over the sink. -/
theorem run_mapSink (hf : Sink.CarriesWrites f) (l : Loader σ) (elapsed : Duration) (n : UInt64) :
    (l.mapSink f).run elapsed n = (l.run elapsed n).map (Outcome.mapSink f) := by
  have htarget : checkTarget (l.mapSink f).profile (l.mapSink f).table (l.mapSink f).batchSize =
    checkTarget l.profile l.table l.batchSize := rfl
  unfold run
  rw [htarget]
  cases checkTarget l.profile l.table l.batchSize with
  | error r => rfl
  | ok => exact runFrom_mapSink hf elapsed n.toNat 0 .zero l _

/-! ### courses -/

theorem answer_mapSink (hf : Sink.CarriesWrites f) (s : σ) (statements : List Sql.Statement) (statement : Sql.Statement) :
    (Sink.write (Sink.feed (f s) statements) statement).answer = (Sink.write (Sink.feed s statements) statement).answer := by
  rw [hf.feed, hf]
  rfl

theorem atBatch_mapSink (hf : Sink.CarriesWrites f) (l : Loader σ) (i : Nat) (statements : List Sql.Statement) :
    (l.atBatch i (Sink.feed l.sink statements)).mapSink f =
      (l.mapSink f).atBatch i (Sink.feed (l.mapSink f).sink statements) := by
  have hfeed : Sink.feed (l.mapSink f).sink statements = f (Sink.feed l.sink statements) := hf.feed l.sink statements
  rw [hfeed]
  rfl

theorem Passed.mapSink (hf : Sink.CarriesWrites f) {l : Loader σ} {statements : List Sql.Statement}
    (h : l.Passed statements) : (l.mapSink f).Passed statements := by
  induction h with
  | nil => exact .nil
  | concat _ checked made accepted ih =>
    rw [← answer_mapSink hf] at accepted
    exact ih.concat checked made accepted

theorem Course.mapSink (hf : Sink.CarriesWrites f) {l l' : Loader σ} {elapsed : Duration} {n : Nat}
    {statements : List Sql.Statement} {answer : Except Aborted Metrics} (h : l.Course elapsed n statements answer l') :
    (l.mapSink f).Course elapsed n statements answer (l'.mapSink f) := by
  cases h with
  | rejected target => exact .rejected target
  | complete target passed all =>
    rw [atBatch_mapSink hf]
    exact .complete target (passed.mapSink hf) all
  | exhausted target passed more left =>
    rw [atBatch_mapSink hf]
    exact .exhausted target (passed.mapSink hf) more left
  | refused target passed more checked made answer =>
    rw [atBatch_mapSink hf]
    rw [← answer_mapSink hf] at answer
    exact .refused target (passed.mapSink hf) more checked made answer

/-! ### single calls -/

theorem clear_mapSink (hf : Sink.Carries f) (l : Loader σ) : (l.mapSink f).clear = l.clear.mapSink f := by
  have htruncate : Sink.truncate (l.mapSink f).sink (l.mapSink f).table = (Sink.truncate l.sink l.table).mapSink f :=
    hf.truncates l.sink l.table
  unfold clear
  rw [htruncate]
  obtain ⟨answer, sink, log⟩ := Sink.truncate l.sink l.table
  cases answer with
  | error e => rfl
  | ok => rfl

theorem countRows_mapSink (hf : Sink.Carries f) (l : Loader σ) : (l.mapSink f).countRows = l.countRows.mapSink f := by
  have hcount : Sink.count (l.mapSink f).sink (l.mapSink f).table = (Sink.count l.sink l.table).mapSink f :=
    hf.counts l.sink l.table
  unfold countRows
  rw [hcount]
  rfl

theorem close_mapSink (hf : Sink.Carries f) (l : Loader σ) : (l.mapSink f).close = l.close.mapSink f := by
  have hclose : Sink.close (l.mapSink f).sink = (Sink.close l.sink).mapSink f := hf.closes l.sink
  unfold close
  rw [hclose]
  rfl

end Loader

end RowLoader
