import RowLoader.Loader
import RowLoader.Proofs.Generator.Batches
import RowLoader.Proofs.Sink.Feed

/-!
# The course of a run

What a run does, said without its loop. Batch `i` starts `i` batch sizes behind the current offset; the run hands the sink
the statements of the batches in order, and ends at the first batch that leaves the key space or is refused.

* `Loader.Passed`: the first batches, each inside the key space and accepted;
* `Loader.Course`: the four ways a run can go, with the answer and the loader at the end;
* `Loader.exists_course`: every run goes one of these ways, and never traps.
-/

namespace RowLoader

namespace Loader

variable {σ τ : Type}

/-! ### the batches of a run -/

section

variable (l : Loader σ)

/-- The first offset of batch `i`, in unbounded numbers. -/
def batchStart (i : Nat) : Nat := l.offset.toNat + i * l.batchSize.toNat

/-- Whether batch `i` lies inside the key space. -/
def batchCheck (i : Nat) : Except KeySpaceOverflow Unit :=
  l.profile.checkSpan (UInt64.ofNat (l.batchStart i)) l.batchSize

/-- The records of batch `i`. -/
def batchRecords (i : Nat) : Except Trap (List Record) :=
  l.generator.batchAt (UInt64.ofNat (l.batchStart i)) l.batchSize

/-- The statement of batch `i`, which carries its records. -/
def batchStatement (i : Nat) : Except Trap Sql.Statement := do
  let records ← l.batchRecords i
  Sql.Statement.ofRecords l.profile.verb l.table l.profile.columns records

def withSink (s : τ) : Loader τ := ⟨s, l.generator, l.table, l.batchSize⟩

/-- The generator with batch `i` as its next one. -/
def batchGenerator (i : Nat) : Generator := { l.generator with offset := UInt64.ofNat (l.batchStart i) }

/-- The loader with batch `i` as its next one, over a sink. -/
def atBatch (i : Nat) (s : σ) : Loader σ := ⟨s, l.batchGenerator i, l.table, l.batchSize⟩

/-- The counters of a run that wrote `i` batches. -/
def counters (i : Nat) (elapsed : Duration) : Metrics :=
  { written := UInt64.ofNat (i * l.batchSize.toNat), failed := 0, commits := UInt64.ofNat i, elapsed := elapsed }

theorem batchStart_zero : l.batchStart 0 = l.offset.toNat := by simp [batchStart]

theorem batchStart_succ (i : Nat) : l.batchStart (i + 1) = l.batchStart i + l.batchSize.toNat := by
  unfold batchStart
  rw [Nat.succ_mul, Nat.add_assoc]

theorem batchStart_mono {i j : Nat} (h : i ≤ j) : l.batchStart i ≤ l.batchStart j :=
  Nat.add_le_add_left (Nat.mul_le_mul_right _ h) _

theorem atBatch_zero : l.atBatch 0 l.sink = l := by
  unfold atBatch batchGenerator
  rw [batchStart_zero, UInt64.ofNat_toNat]
  rfl

theorem counters_zero : l.counters 0 .zero = .zero := by
  unfold counters
  rw [Nat.zero_mul]
  rfl

end

variable {l : Loader σ}

/-! ### no sum leaves its word -/

theorem batchStart_le_of_check {i : Nat} (hi : l.batchStart i < 2 ^ 64) (h : l.batchCheck i = .ok ()) :
    l.batchStart (i + 1) ≤ lastOffset := by
  have hend := Profile.checkSpan_eq_ok_iff.1 h
  rw [toNat_ofNat_of_lt hi] at hend
  rwa [batchStart_succ]

theorem batchSize_pos (target : checkTarget l.profile l.table l.batchSize = .ok ()) : 0 < l.batchSize.toNat := by
  have hne := (checkTarget_eq_ok_iff.1 target).2.1
  rw [Nat.pos_iff_ne_zero]
  intro hzero
  exact hne (UInt64.toNat_inj.1 hzero)

theorem toNat_counters {i : Nat} (hsize : 0 < l.batchSize.toNat) (hi : l.batchStart i < 2 ^ 64)
    (elapsed : Duration) :
    (l.counters i elapsed).written.toNat = i * l.batchSize.toNat ∧ (l.counters i elapsed).commits.toNat = i := by
  unfold batchStart at hi
  have hcount : i ≤ i * l.batchSize.toNat := Nat.le_mul_of_pos_right _ hsize
  exact ⟨toNat_ofNat_of_lt (by omega), toNat_ofNat_of_lt (by omega)⟩

theorem addWritten_counters {i : Nat} (hsize : 0 < l.batchSize.toNat) (hi : l.batchStart (i + 1) < 2 ^ 64) :
    (l.counters i .zero).addWritten l.batchSize = .ok (l.counters (i + 1) .zero) := by
  have hlt : l.batchStart i < 2 ^ 64 := Nat.lt_of_le_of_lt (l.batchStart_mono (Nat.le_succ i)) hi
  obtain ⟨hwritten, hcommits⟩ := toNat_counters hsize hlt .zero
  obtain ⟨hwritten', hcommits'⟩ := toNat_counters hsize hi .zero
  rw [Metrics.addWritten_eq_ok_iff, hwritten, hwritten', hcommits, hcommits']
  exact ⟨Nat.succ_mul _ _, rfl, rfl, rfl⟩

theorem addFailed_counters (i : Nat) : (l.counters i .zero).addFailed l.batchSize =
    .ok { l.counters i .zero with failed := l.batchSize } := by
  have hsum : addWords 0 l.batchSize = .ok l.batchSize := by
    rw [addWords_eq_ok_iff]
    exact (Nat.zero_add _).symm
  unfold Metrics.addFailed
  change (addWords 0 l.batchSize >>= _) = _
  rw [hsum]
  rfl

/-! ### one batch -/

theorem rows_of_batchRecords {i : Nat} {records : List Record} (hi : l.batchStart i < 2 ^ 64)
    (h : l.batchRecords i = .ok records) : l.profile.Rows (l.batchStart i) l.batchSize.toNat records := by
  have hrows := Generator.rows_of_batchAt h
  rwa [toNat_ofNat_of_lt hi] at hrows

/-- Inside the key space a batch is made, its statement has a row for each record, and the offset moves past it. -/
theorem exists_batch {i : Nat} (hi : l.batchStart i < 2 ^ 64) (checked : l.batchCheck i = .ok ()) :
    ∃ records statement, l.batchRecords i = .ok records ∧ l.profile.Rows (l.batchStart i) l.batchSize.toNat records ∧
      l.batchStatement i = .ok statement ∧ statement.rows = l.batchSize.toNat ∧
      statement.parameters = Sql.parametersOf records ∧
      (l.batchGenerator i).advance l.batchSize = .ok (records, l.batchGenerator (i + 1)) := by
  obtain ⟨records, hrecords, hadvance⟩ := Generator.exists_advance (g := l.batchGenerator i) checked
  have hoffset : UInt64.ofNat (l.batchStart i) + l.batchSize = UInt64.ofNat (l.batchStart (i + 1)) := by
    rw [batchStart_succ, UInt64.ofNat_add, UInt64.ofNat_toNat]
  have hmade : l.batchRecords i = .ok records := hrecords
  have hrows := rows_of_batchRecords hi hmade
  have hstatement := hrows.ofRecords l.profile.verb l.table
  refine ⟨records, ⟨Sql.batchText l.profile.verb l.table l.profile.columns l.batchSize.toNat, Sql.parametersOf records,
    l.batchSize.toNat⟩, hmade, hrows, ?_, rfl, rfl, ?_⟩
  · unfold batchStatement
    rw [hmade]
    exact hstatement
  · rw [hadvance]
    unfold batchGenerator
    rw [← hoffset]

/-- Before the end of a range that fits the key space, every batch fits. -/
theorem batchCheck_of_end_le {i n : Nat} (hi : i < n) (hend : l.batchStart n ≤ lastOffset) : l.batchCheck i = .ok () := by
  have hlast : lastOffset < 2 ^ 64 := by decide
  have hnext : l.batchStart (i + 1) ≤ l.batchStart n := l.batchStart_mono hi
  rw [batchStart_succ] at hnext
  unfold batchCheck
  rw [Profile.checkSpan_eq_ok_iff, toNat_ofNat_of_lt (by omega)]
  omega

/-- All batches before such an end are made. -/
theorem exists_records {n : Nat} (hend : l.batchStart n ≤ lastOffset) :
    ∃ records : Nat → List Record, ∀ i < n, l.batchRecords i = .ok (records i) := by
  refine ⟨fun i => (l.batchRecords i).toOption.getD [], fun i hi => ?_⟩
  obtain ⟨records, hrecords⟩ := Generator.exists_batchAt (batchCheck_of_end_le hi hend)
  have hmade : l.batchRecords i = .ok records := hrecords
  have hget : (l.batchRecords i).toOption.getD [] = records := by
    rw [hmade]
    rfl
  exact hmade.trans (congrArg Except.ok hget.symm)

/-- They lie one behind the other. -/
theorem rows_of_batches {n : Nat} {records : Nat → List Record} (hend : l.batchStart n ≤ lastOffset)
    (made : ∀ i < n, l.batchRecords i = .ok (records i)) :
    l.profile.Rows l.offset.toNat (n * l.batchSize.toNat) ((List.range n).flatMap records) := by
  have hlast : lastOffset < 2 ^ 64 := by decide
  induction n with
  | zero =>
    rw [Nat.zero_mul]
    exact Profile.Rows.nil _ _
  | succ n ih =>
    have hstart : l.batchStart n ≤ lastOffset := Nat.le_trans (l.batchStart_mono (Nat.le_succ n)) hend
    have hfront := ih hstart fun i hi => made i (Nat.lt_succ_of_lt hi)
    have hnext := rows_of_batchRecords (by omega) (made n (Nat.lt_succ_self n))
    rw [List.range_succ, List.flatMap_append, List.flatMap_singleton, Nat.succ_mul]
    exact hfront.append hnext

/-! ### the outcome of a write -/

theorem settle_of_accepted {m m' : Metrics} {index offset rows w : UInt64} {before : Log}
    {reply : Reply σ UInt64} (h : reply.answer = .ok w) (hm : m.addWritten rows = .ok m') :
    ∃ log, l.settle m index offset rows before reply = .ok ⟨(.ok w, m'), { l with sink := reply.sink }, log⟩ := by
  refine ⟨before ++ reply.log ++ #[.committed index offset m'.written], ?_⟩
  unfold settle
  rw [h]
  simp only [hm]
  rfl

theorem settle_of_refused {m m' : Metrics} {index offset rows : UInt64} {e : LoadError} {before : Log}
    {reply : Reply σ UInt64} (h : reply.answer = .error e) (hm : m.addFailed rows = .ok m') :
    ∃ log, l.settle m index offset rows before reply =
      .ok ⟨(.error (.batch index offset rows e), m'), { l with sink := reply.sink }, log⟩ := by
  refine ⟨before ++ reply.log ++ #[.rolledBack index offset rows e], ?_⟩
  unfold settle
  rw [h]
  simp only [hm]
  rfl

variable [Sink σ]

/-! ### ways to go -/

/-- The statements are those of the first batches, each checked against the key space and then accepted by the sink. -/
inductive Passed (l : Loader σ) : List Sql.Statement → Prop where
  | nil : Passed l []
  | concat {statements : List Sql.Statement} {statement : Sql.Statement} {rows : UInt64}
      (front : Passed l statements) (checked : l.batchCheck statements.length = .ok ())
      (made : l.batchStatement statements.length = .ok statement)
      (accepted : (Sink.write (Sink.feed l.sink statements) statement).answer = .ok rows) :
      Passed l (statements ++ [statement])

/-- How a run of `n` batches goes: the statements handed to the sink in order, the answer, and the loader at the end. -/
inductive Course (l : Loader σ) (elapsed : Duration) (n : Nat) :
    List Sql.Statement → Except Aborted Metrics → Loader σ → Prop where
  /-- the target is refused, and nothing happens -/
  | rejected {r : Refusal} (target : checkTarget l.profile l.table l.batchSize = .error r) :
      Course l elapsed n [] (.error ⟨.zero, .config r⟩) l
  /-- all batches are accepted -/
  | complete {statements : List Sql.Statement} (target : checkTarget l.profile l.table l.batchSize = .ok ())
      (passed : l.Passed statements) (all : statements.length = n) :
      Course l elapsed n statements (.ok (l.counters n elapsed)) (l.atBatch n (Sink.feed l.sink statements))
  /-- the batch behind those accepted leaves the key space, and is not made -/
  | exhausted {statements : List Sql.Statement} {e : KeySpaceOverflow}
      (target : checkTarget l.profile l.table l.batchSize = .ok ()) (passed : l.Passed statements)
      (more : statements.length < n) (left : l.batchCheck statements.length = .error e) :
      Course l elapsed n statements (.error ⟨l.counters statements.length elapsed, .keySpace e⟩)
        (l.atBatch statements.length (Sink.feed l.sink statements))
  /-- the batch behind those accepted is refused -/
  | refused {statements : List Sql.Statement} {statement : Sql.Statement} {e : LoadError}
      (target : checkTarget l.profile l.table l.batchSize = .ok ()) (passed : l.Passed statements)
      (more : statements.length < n) (checked : l.batchCheck statements.length = .ok ())
      (made : l.batchStatement statements.length = .ok statement)
      (answer : (Sink.write (Sink.feed l.sink statements) statement).answer = .error e) :
      Course l elapsed n (statements ++ [statement])
        (.error ⟨{ l.counters statements.length elapsed with failed := l.batchSize },
          .batch (UInt64.ofNat statements.length) (UInt64.ofNat (l.batchStart statements.length)) l.batchSize e⟩)
        (l.atBatch (statements.length + 1) (Sink.feed l.sink (statements ++ [statement])))

theorem Course.sink_eq {l' : Loader σ} {elapsed : Duration} {n : Nat} {statements : List Sql.Statement}
    {answer : Except Aborted Metrics} (h : l.Course elapsed n statements answer l') :
    l'.sink = Sink.feed l.sink statements := by
  cases h <;> rfl

theorem Course.table_eq {l' : Loader σ} {elapsed : Duration} {n : Nat} {statements : List Sql.Statement}
    {answer : Except Aborted Metrics} (h : l.Course elapsed n statements answer l') : l'.table = l.table := by
  cases h <;> rfl

/-! ### one step -/

theorem Passed.batchStart_lt {statements : List Sql.Statement} (h : l.Passed statements) :
    l.batchStart statements.length < 2 ^ 64 := by
  induction h with
  | nil =>
    rw [List.length_nil, batchStart_zero]
    exact l.offset.toNat_lt
  | concat _ checked _ _ ih =>
    have hlast : lastOffset < 2 ^ 64 := by decide
    rw [List.length_append, List.length_singleton]
    exact Nat.lt_of_le_of_lt (batchStart_le_of_check ih checked) hlast

/-- Storing the records of a batch hands its statement to the sink. -/
theorem store_batch {i : Nat} {records : List Record} {statement : Sql.Statement} (hsize : 0 < l.batchSize.toNat)
    (hi : l.batchStart i < 2 ^ 64) (hrows : l.profile.Rows (l.batchStart i) l.batchSize.toNat records)
    (hmade : l.batchRecords i = .ok records) (hstatement : l.batchStatement i = .ok statement) (m : Metrics)
    (index : UInt64) (s : σ) :
    ∃ log, store (l.atBatch (i + 1) s) m index records =
      settle (l.atBatch (i + 1) s) m index (UInt64.ofNat (l.batchStart i)) l.batchSize log (Sink.write s statement) := by
  have hlength := hrows.length
  have hfirst : ∀ h : 0 < records.length, records[0].offset = UInt64.ofNat (l.batchStart i) := by
    intro h
    rw [← UInt64.toNat_inj, hrows.offset_getElem h, toNat_ofNat_of_lt hi, Nat.add_zero]
  cases records with
  | nil =>
    rw [List.length_nil] at hlength
    omega
  | cons first rest =>
    unfold batchStatement at hstatement
    rw [hmade] at hstatement
    refine ⟨#[.executing l.profile.verb (first :: rest).length statement.parameters.length], ?_⟩
    change (Sql.Statement.ofRecords l.profile.verb l.table l.profile.columns (first :: rest) >>= _) = _
    change Sql.Statement.ofRecords l.profile.verb l.table l.profile.columns (first :: rest) = _ at hstatement
    rw [hstatement, ← hfirst (Nat.succ_pos _), hlength, UInt64.ofNat_toNat]
    rfl

/-- A batch inside the key space is made, and what follows depends on the sink's answer to its statement. -/
theorem runFrom_of_checked {i : Nat} {statement : Sql.Statement} {s : σ}
    (target : checkTarget l.profile l.table l.batchSize = .ok ()) (hi : l.batchStart i < 2 ^ 64)
    (checked : l.batchCheck i = .ok ()) (made : l.batchStatement i = .ok statement) (elapsed : Duration) (left : Nat)
    (log : Log) :
    ∃ before, runFrom elapsed (left + 1) (UInt64.ofNat i) (l.counters i .zero) (l.atBatch i s) log =
      match settle (l.atBatch (i + 1) s) (l.counters i .zero) (UInt64.ofNat i) (UInt64.ofNat (l.batchStart i)) l.batchSize
        before (Sink.write s statement) with
      | .error t => .error t
      | .ok ⟨(.ok _, m), l, more⟩ => runFrom elapsed left (UInt64.ofNat (i + 1)) m l (log ++ more)
      | .ok ⟨(.error e, m), l, more⟩ => .ok ⟨.error ⟨{ m with elapsed := elapsed }, e⟩, l, log ++ more⟩ := by
  obtain ⟨records, _, hrecords, hrows, hstatement, -, -, hadvance⟩ := exists_batch hi checked
  cases made.symm.trans hstatement
  obtain ⟨before, hstore⟩ :=
    store_batch (batchSize_pos target) hi hrows hrecords made (l.counters i .zero) (UInt64.ofNat i) s
  have hcheck : (l.atBatch i s).profile.checkSpan (l.atBatch i s).offset (l.atBatch i s).batchSize = .ok () := checked
  have hadvance : (l.atBatch i s).generator.advance (l.atBatch i s).batchSize =
    .ok (records, l.batchGenerator (i + 1)) := hadvance
  have hstore : store { l.atBatch i s with generator := l.batchGenerator (i + 1) } (l.counters i .zero) (UInt64.ofNat i)
    records = _ := hstore
  refine ⟨before, ?_⟩
  simp only [runFrom, hcheck, hadvance, hstore, UInt64.ofNat_add]
  rfl

/-- A run whose next batch is accepted goes on behind it. -/
theorem runFrom_of_accepted {i : Nat} {statement : Sql.Statement} {rows : UInt64} {s : σ}
    (target : checkTarget l.profile l.table l.batchSize = .ok ()) (hi : l.batchStart i < 2 ^ 64)
    (checked : l.batchCheck i = .ok ()) (made : l.batchStatement i = .ok statement)
    (accepted : (Sink.write s statement).answer = .ok rows) (elapsed : Duration) (left : Nat) (log : Log) :
    ∃ log', runFrom elapsed (left + 1) (UInt64.ofNat i) (l.counters i .zero) (l.atBatch i s) log =
      runFrom elapsed left (UInt64.ofNat (i + 1)) (l.counters (i + 1) .zero)
        (l.atBatch (i + 1) (Sink.write s statement).sink) log' := by
  have hend : l.batchStart (i + 1) < 2 ^ 64 := Nat.lt_of_le_of_lt (batchStart_le_of_check hi checked) (by decide)
  obtain ⟨before, hrun⟩ := runFrom_of_checked (s := s) target hi checked made elapsed left log
  obtain ⟨more, hsettle⟩ := settle_of_accepted accepted (addWritten_counters (batchSize_pos target) hend)
  rw [hsettle] at hrun
  exact ⟨log ++ more, hrun⟩

/-- A run whose next batch is refused ends there, with the offset behind that batch. -/
theorem runFrom_of_refused {i : Nat} {statement : Sql.Statement} {e : LoadError} {s : σ}
    (target : checkTarget l.profile l.table l.batchSize = .ok ()) (hi : l.batchStart i < 2 ^ 64)
    (checked : l.batchCheck i = .ok ()) (made : l.batchStatement i = .ok statement)
    (refused : (Sink.write s statement).answer = .error e) (elapsed : Duration) (left : Nat) (log : Log) :
    ∃ log', runFrom elapsed (left + 1) (UInt64.ofNat i) (l.counters i .zero) (l.atBatch i s) log =
      .ok ⟨.error ⟨{ l.counters i elapsed with failed := l.batchSize },
        .batch (UInt64.ofNat i) (UInt64.ofNat (l.batchStart i)) l.batchSize e⟩,
        l.atBatch (i + 1) (Sink.write s statement).sink, log'⟩ := by
  obtain ⟨before, hrun⟩ := runFrom_of_checked (s := s) target hi checked made elapsed left log
  obtain ⟨more, hsettle⟩ := settle_of_refused refused (addFailed_counters i)
  rw [hsettle] at hrun
  exact ⟨log ++ more, hrun⟩

/-! ### whole runs -/

/-- The loop invariant: the batches before the next one passed, and offset, counters and sink tell of them alone. -/
theorem exists_course_of_passed {statements : List Sql.Statement}
    (target : checkTarget l.profile l.table l.batchSize = .ok ()) (passed : l.Passed statements) (elapsed : Duration)
    (left : Nat) (log : Log) :
    ∃ all o, runFrom elapsed left (UInt64.ofNat statements.length) (l.counters statements.length .zero)
        (l.atBatch statements.length (Sink.feed l.sink statements)) log = .ok o ∧
      l.Course elapsed (statements.length + left) all o.answer o.loader ∧ l.batchStart all.length < 2 ^ 64 := by
  induction left generalizing statements log with
  | zero => exact ⟨statements, _, rfl, .complete target passed rfl, passed.batchStart_lt⟩
  | succ left ih =>
    have hi := passed.batchStart_lt
    cases hcheck : l.batchCheck statements.length with
    | error e =>
      have hrun := runFrom_of_overflow (l := l.atBatch statements.length (Sink.feed l.sink statements)) hcheck elapsed left
        (UInt64.ofNat statements.length) (l.counters statements.length .zero) log
      exact ⟨statements, _, hrun, .exhausted target passed (by omega) hcheck, hi⟩
    | ok =>
      obtain ⟨records, statement, -, -, made, -⟩ := exists_batch hi hcheck
      have hend := batchStart_le_of_check hi hcheck
      cases hanswer : (Sink.write (Sink.feed l.sink statements) statement).answer with
      | error e =>
        obtain ⟨log', hrun⟩ := runFrom_of_refused target hi hcheck made hanswer elapsed left log
        rw [← Sink.feed_concat] at hrun
        refine ⟨statements ++ [statement], _, hrun, .refused target passed (by omega) hcheck made hanswer, ?_⟩
        rw [List.length_append]
        exact Nat.lt_of_le_of_lt hend (by decide)
      | ok rows =>
        obtain ⟨log', hrun⟩ := runFrom_of_accepted target hi hcheck made hanswer elapsed left log
        have hnext : l.Passed (statements ++ [statement]) := passed.concat hcheck made hanswer
        obtain ⟨all, o, hall, hcourse, hlt⟩ := ih hnext log'
        rw [List.length_append, List.length_singleton, Sink.feed_concat, ← hrun] at hall
        rw [List.length_append, List.length_singleton, Nat.add_right_comm] at hcourse
        exact ⟨all, o, hall, hcourse, hlt⟩

theorem exists_course (l : Loader σ) (elapsed : Duration) (n : UInt64) :
    ∃ statements o, l.run elapsed n = .ok o ∧ l.Course elapsed n.toNat statements o.answer o.loader ∧
      l.batchStart statements.length < 2 ^ 64 := by
  cases target : checkTarget l.profile l.table l.batchSize with
  | error r =>
    refine ⟨[], _, run_of_refused target elapsed n, .rejected target, ?_⟩
    rw [List.length_nil, batchStart_zero]
    exact l.offset.toNat_lt
  | ok =>
    obtain ⟨all, o, hrun, hcourse, hlt⟩ := exists_course_of_passed target .nil elapsed n.toNat
      #[.loading n l.batchSize l.table l.profile l.offset]
    rw [List.length_nil, Nat.zero_add] at hcourse
    refine ⟨all, o, ?_, hcourse, hlt⟩
    rw [List.length_nil, Sink.feed_nil, counters_zero, atBatch_zero] at hrun
    unfold run
    rw [target]
    exact hrun

end Loader

end RowLoader
