import RowLoader.Generator
import RowLoader.Plan.Validate
import RowLoader.Sink

/-!
# The load

A loader owns a sink and a generator. `store` writes one batch, `run` makes and writes batches one after the other and
stops at the first that fails. The offset moves when a batch is made, so a batch that was refused is not sent again by a
later run.
-/

namespace RowLoader

structure Loader (σ : Type) where
  sink : σ
  generator : Generator
  table : String
  batchSize : UInt64

/-- What a step of the load answers, the loader after it, and what it logged. -/
structure Outcome (σ α : Type) where
  answer : α
  loader : Loader σ
  log : Log

namespace Loader

variable {σ : Type}

/-- Records that carry a creation time get `createdAt`. -/
def ofPlan (plan : LoadPlan) (createdAt : Timestamp) (sink : σ) : Loader σ :=
  { sink := sink
    generator := ⟨plan.profile, plan.seed, createdAt, plan.startOffset⟩
    table := plan.table
    batchSize := plan.batchSize }

def profile (l : Loader σ) : Profile := l.generator.profile

def offset (l : Loader σ) : UInt64 := l.generator.offset

variable [Sink σ]

/-! ### single calls -/

/-- Clears the table. After a failure its state is unknown. -/
def clear (l : Loader σ) : Outcome σ (Except LoadError Unit) :=
  let reply := Sink.truncate l.sink l.table
  let loader := { l with sink := reply.sink }
  match reply.answer with
  | .ok () => ⟨.ok (), loader, #[.truncating l.table] ++ reply.log⟩
  | .error e => ⟨.error (.reset l.table e), loader, #[.truncating l.table] ++ reply.log ++ #[.truncateFailed l.table e]⟩

def countRows (l : Loader σ) : Outcome σ (Except LoadError UInt64) :=
  let reply := Sink.count l.sink l.table
  ⟨reply.answer, { l with sink := reply.sink }, reply.log⟩

def close (l : Loader σ) : Outcome σ (Except LoadError Unit) :=
  let reply := Sink.close l.sink
  ⟨reply.answer, { l with sink := reply.sink }, reply.log⟩

/-! ### one batch -/

/-- The outcome of a write whose statement had `rows` rows from `offset` on. -/
def settle (l : Loader σ) (m : Metrics) (index offset rows : UInt64) (before : Log) (reply : Reply σ UInt64) :
    Except Trap (Outcome σ (Except LoadError UInt64 × Metrics)) :=
  let loader := { l with sink := reply.sink }
  match reply.answer with
  | .ok written => do
    let m ← m.addWritten rows
    return ⟨(.ok written, m), loader, before ++ reply.log ++ #[.committed index offset m.written]⟩
  | .error e => do
    let m ← m.addFailed rows
    return ⟨(.error (.batch index offset rows e), m), loader,
      before ++ reply.log ++ #[.rolledBack index offset rows e]⟩

/-- Writes the records as one statement; no records are no statement. -/
def store (l : Loader σ) (m : Metrics) (index : UInt64) (records : List Record) :
    Except Trap (Outcome σ (Except LoadError UInt64 × Metrics)) :=
  match records with
  | [] => .ok ⟨(.ok 0, m), l, #[]⟩
  | first :: _ => do
    let statement ← Sql.Statement.ofRecords l.profile.verb l.table l.profile.columns records
    l.settle m index first.offset (UInt64.ofNat records.length)
      #[.executing l.profile.verb records.length statement.parameters.length] (Sink.write l.sink statement)

/-! ### runs -/

/-- `left` more batches, the next one with number `index`; the run takes `elapsed` in all. -/
def runFrom (elapsed : Duration) : (left : Nat) → (index : UInt64) → Metrics → Loader σ → Log →
    Except Trap (Outcome σ (Except Aborted Metrics))
  | 0, _, m, l, log =>
    let m := { m with elapsed := elapsed }
    .ok ⟨.ok m, l, log.push (.loaded m)⟩
  | left + 1, index, m, l, log =>
    match l.profile.checkSpan l.offset l.batchSize with
    | .error e => .ok ⟨.error ⟨{ m with elapsed := elapsed }, .keySpace e⟩, l, log⟩
    | .ok () =>
      match l.generator.advance l.batchSize with
      | .error t => .error t
      | .ok (records, generator) =>
        match store { l with generator := generator } m index records with
        | .error t => .error t
        | .ok ⟨(.ok _, m), l, more⟩ => runFrom elapsed left (index + 1) m l (log ++ more)
        | .ok ⟨(.error e, m), l, more⟩ => .ok ⟨.error ⟨{ m with elapsed := elapsed }, e⟩, l, log ++ more⟩

def run (l : Loader σ) (elapsed : Duration) (batchCount : UInt64) :
    Except Trap (Outcome σ (Except Aborted Metrics)) :=
  match checkTarget l.profile l.table l.batchSize with
  | .error r => .ok ⟨.error ⟨.zero, .config r⟩, l, #[]⟩
  | .ok () =>
    runFrom elapsed batchCount.toNat 0 .zero l
      #[.loading batchCount l.batchSize l.table l.profile l.offset]

/-- A run whose target is refused asks nothing of the sink. -/
theorem run_of_refused {l : Loader σ} {r : Refusal} (h : checkTarget l.profile l.table l.batchSize = .error r)
    (elapsed : Duration) (batchCount : UInt64) :
    l.run elapsed batchCount = .ok ⟨.error ⟨.zero, .config r⟩, l, #[]⟩ := by
  unfold run
  rw [h]

/-- A run whose next batch would leave the key space ends there, and the loader stays as it was. -/
theorem runFrom_of_overflow {l : Loader σ} {e : KeySpaceOverflow} (h : l.profile.checkSpan l.offset l.batchSize = .error e)
    (elapsed : Duration) (left : Nat) (index : UInt64) (m : Metrics) (log : Log) :
    runFrom elapsed (left + 1) index m l log =
      .ok ⟨.error ⟨{ m with elapsed := elapsed }, .keySpace e⟩, l, log⟩ := by
  unfold runFrom
  rw [h]

end Loader

end RowLoader
