import RowLoader.Command.Load
import RowLoader.Proofs.Loader.Recorded
import RowLoader.Sink.Counting

/-!
# The calls of a load

A load clears the table, runs, counts and closes. Which of these calls it makes of its sink, in which order, and on which of
the sink's answers its own answer depends.

* `LoadPlan.calls`, `LoadPlan.answer`: the calls and the answer of a load, told from how clearing, run and count went;
* `Loader.exists_load`: every load ends, with that answer;
* `Loader.load_calls_in_order`: every load makes those calls, and the last of them is its only `close`.
-/

namespace RowLoader

variable {σ τ : Type}

theorem map_unit_eq_ok_iff {ε α : Type} {x : Except ε α} : (x.map fun _ => ()) = .ok () ↔ ∃ a, x = .ok a := by
  constructor
  · intro h
    obtain ⟨a, ha, -⟩ := map_eq_ok h
    exact ⟨a, ha⟩
  · rintro ⟨a, rfl⟩
    rfl

/-! ### the stages of a load -/

namespace LoadPlan

variable (plan : LoadPlan)

/-- The answer to clearing the table, if the plan asks for it, and the sink afterwards. -/
def clearing [Sink σ] (sink : σ) : Except LoadError Unit × σ :=
  if plan.truncate then ((Sink.truncate sink plan.table).answer, (Sink.truncate sink plan.table).sink) else (.ok (), sink)

/-- The calls of a load whose run hands over `statements`. -/
def calls (cleared : Except LoadError Unit) (statements : List Sql.Statement) (ran : Except Aborted Metrics) :
    List SinkCall :=
  (if plan.truncate then [.truncate plan.table] else []) ++
    (if cleared.isOk then statements.map .write else []) ++
    (if plan.truncate && cleared.isOk && ran.isOk then [.count plan.table] else []) ++
    [.close]

/-- The answer of a load. Of the count only matters that it succeeds, and only if there is one. -/
def answer (cleared : Except LoadError Unit) (ran : Except Aborted Metrics) (counted : Except LoadError Unit) :
    Except CommandError Metrics :=
  match cleared, ran with
  | .error e, _ => .error (.reset (.reset plan.table e))
  | .ok (), .error a => .error (.aborted a)
  | .ok (), .ok m =>
    if plan.truncate then
      match counted with
      | .error e => .error (.count plan.table e)
      | .ok () => .ok m
    else .ok m

/-- The sink that a load closes. -/
def lastSink [Sink σ] (cleared : Except LoadError Unit × σ) (ran : Outcome σ (Except Aborted Metrics)) : σ :=
  if cleared.1.isOk then
    if plan.truncate && ran.answer.isOk then (Sink.count ran.loader.sink plan.table).sink else ran.loader.sink
  else cleared.2

variable {plan}

theorem answer_eq_ok_iff {cleared : Except LoadError Unit} {ran : Except Aborted Metrics}
    {counted : Except LoadError Unit} {m : Metrics} : plan.answer cleared ran counted = .ok m ↔
      cleared = .ok () ∧ ran = .ok m ∧ (plan.truncate = true → counted = .ok ()) := by
  cases htruncate : plan.truncate with
  | false => cases cleared <;> cases ran <;> simp [answer, htruncate]
  | true => cases cleared <;> cases ran <;> cases counted <;> simp [answer, htruncate]

theorem answer_of_uncleared (plan : LoadPlan) (e : LoadError) (ran : Except Aborted Metrics)
    (counted : Except LoadError Unit) : plan.answer (.error e) ran counted = .error (.reset (.reset plan.table e)) := rfl

theorem write_notMem_calls_of_uncleared (plan : LoadPlan) (e : LoadError) (statements : List Sql.Statement)
    (ran : Except Aborted Metrics) (statement : Sql.Statement) :
    .write statement ∉ plan.calls (.error e) statements ran := by
  cases htruncate : plan.truncate <;> simp [calls, htruncate, Except.isOk, Except.toBool]

end LoadPlan

namespace Loader

/-! ### every load ends -/

section

variable [Sink σ] {l : Loader σ} {plan : LoadPlan} {elapsed : Duration}

theorem table_of_run {n : UInt64} {o : Outcome σ (Except Aborted Metrics)} (h : l.run elapsed n = .ok o) :
    o.loader.table = l.table := by
  obtain ⟨statements, o', hrun, hcourse, -⟩ := exists_course l elapsed n
  cases h.symm.trans hrun
  exact hcourse.table_eq

/-- The first stage leaves the loader over the sink it left behind. -/
theorem exists_clearing (htable : l.table = plan.table) : ∃ log,
    (if plan.truncate then l.clear else ⟨.ok (), l, #[]⟩ : Outcome σ (Except LoadError Unit)) =
      ⟨(plan.clearing l.sink).1.mapError (.reset plan.table), l.withSink (plan.clearing l.sink).2, log⟩ := by
  unfold LoadPlan.clearing
  rw [← htable]
  cases plan.truncate with
  | false => exact ⟨#[], rfl⟩
  | true =>
    simp only [if_true, clear]
    cases (Sink.truncate l.sink l.table).answer with
    | error e => exact ⟨_, rfl⟩
    | ok => exact ⟨_, rfl⟩

/-- The last stage answers with the counters, unless the count fails. -/
theorem exists_reportCount (htable : l.table = plan.table) (m : Metrics) (log : Log) : ∃ more, reportCount m l log =
    ⟨match (Sink.count l.sink plan.table).answer with
      | .error e => .error (.count plan.table e)
      | .ok _ => .ok m,
      { l with sink := (Sink.count l.sink plan.table).sink }, more⟩ := by
  simp only [reportCount, countRows, htable]
  cases (Sink.count l.sink plan.table).answer with
  | error e => exact ⟨_, rfl⟩
  | ok rows => exact ⟨_, rfl⟩

/-- Everything but closing, stage after stage. -/
theorem exists_loadTable {ran : Outcome σ (Except Aborted Metrics)} (htable : l.table = plan.table)
    (hran : (l.withSink (plan.clearing l.sink).2).run elapsed plan.batchCount = .ok ran) :
    ∃ o, l.loadTable plan elapsed = .ok o ∧
      o.answer = plan.answer (plan.clearing l.sink).1 ran.answer
        ((Sink.count ran.loader.sink plan.table).answer.map fun _ => ()) ∧
      o.loader.sink = plan.lastSink (plan.clearing l.sink) ran := by
  have hrantable : ran.loader.table = plan.table := (table_of_run hran).trans htable
  obtain ⟨before, hclearing⟩ := exists_clearing htable
  unfold loadTable
  simp only [hclearing]
  generalize plan.clearing l.sink = cleared at hran ⊢
  obtain ⟨cleared, s⟩ := cleared
  cases cleared with
  | error e => exact ⟨_, rfl, rfl, rfl⟩
  | ok =>
    obtain ⟨answer, l', log⟩ := ran
    simp only [hran, Except.mapError]
    cases answer with
    | error a => exact ⟨_, rfl, rfl, by simp [LoadPlan.lastSink, Except.isOk, Except.toBool]⟩
    | ok m =>
      cases htruncate : plan.truncate with
      | false =>
        refine ⟨_, rfl, ?_, ?_⟩
        · simp [LoadPlan.answer, htruncate]
        · simp [LoadPlan.lastSink, htruncate, Except.isOk, Except.toBool]
      | true =>
        obtain ⟨more, hreport⟩ := exists_reportCount hrantable m (before ++ log)
        simp only [hreport]
        refine ⟨_, rfl, ?_, ?_⟩
        · cases (Sink.count l'.sink plan.table).answer with
          | error e => simp [LoadPlan.answer, htruncate, Except.map]
          | ok rows => simp [LoadPlan.answer, htruncate, Except.map]
        · simp [LoadPlan.lastSink, htruncate, Except.isOk, Except.toBool]

/-- **Every load ends.** Its answer is told by the answers to clearing, run and count, whatever closing answers. -/
theorem exists_load {ran : Outcome σ (Except Aborted Metrics)} (htable : l.table = plan.table)
    (hran : (l.withSink (plan.clearing l.sink).2).run elapsed plan.batchCount = .ok ran) :
    ∃ o, l.loadThenClose plan elapsed = .ok o ∧
      o.answer = plan.answer (plan.clearing l.sink).1 ran.answer
        ((Sink.count ran.loader.sink plan.table).answer.map fun _ => ()) ∧
      o.loader.sink = (Sink.close (plan.lastSink (plan.clearing l.sink) ran)).sink := by
  obtain ⟨o, hload, hanswer, hsink⟩ := exists_loadTable htable hran
  unfold loadThenClose
  rw [hload, ← hsink]
  exact ⟨_, rfl, hanswer, rfl⟩

/-- The same for the loader of the plan. -/
theorem exists_load_ofPlan {createdAt : Timestamp} {sink : σ} {cleared : Except LoadError Unit × σ}
    {ran : Outcome σ (Except Aborted Metrics)} (hclearing : plan.clearing sink = cleared)
    (hran : (ofPlan plan createdAt cleared.2).run elapsed plan.batchCount = .ok ran) :
    ∃ o, (ofPlan plan createdAt sink).loadThenClose plan elapsed = .ok o ∧
      o.answer = plan.answer cleared.1 ran.answer ((Sink.count ran.loader.sink plan.table).answer.map fun _ => ()) ∧
      o.loader.sink = (Sink.close (plan.lastSink cleared ran)).sink := by
  subst hclearing
  exact exists_load rfl hran

end

/-! ### recorded loads -/

section

variable [Sink σ] [Sink τ] {f : σ → τ}

theorem reportCount_mapSink (hf : Sink.Carries f) (m : Metrics) (l : Loader σ) (log : Log) :
    reportCount m (l.mapSink f) log = (reportCount m l log).mapSink f := by
  have hcount := countRows_mapSink hf l
  unfold reportCount
  rw [hcount]
  obtain ⟨answer, l', more⟩ := l.countRows
  cases answer with
  | error e => rfl
  | ok rows => rfl

theorem loadTable_mapSink (hf : Sink.Carries f) (plan : LoadPlan) (elapsed : Duration) (l : Loader σ) :
    (l.mapSink f).loadTable plan elapsed = (l.loadTable plan elapsed).map (Outcome.mapSink f) := by
  have hcleared : (if plan.truncate then (l.mapSink f).clear else ⟨.ok (), l.mapSink f, #[]⟩) =
      (if plan.truncate then l.clear else ⟨.ok (), l, #[]⟩ : Outcome σ (Except LoadError Unit)).mapSink f := by
    cases plan.truncate with
    | false => rfl
    | true => exact clear_mapSink hf l
  unfold loadTable
  simp only [hcleared]
  obtain ⟨answer, l', before⟩ := (if plan.truncate then l.clear else ⟨.ok (), l, #[]⟩ : Outcome σ (Except LoadError Unit))
  cases answer with
  | error e => rfl
  | ok =>
    have hrun := run_mapSink hf.writes l' elapsed plan.batchCount
    simp only [Outcome.mapSink, hrun]
    cases l'.run elapsed plan.batchCount with
    | error t => rfl
    | ok ran =>
      obtain ⟨answer, l'', log⟩ := ran
      cases answer with
      | error a => rfl
      | ok m =>
        cases plan.truncate with
        | false => rfl
        | true => exact congrArg Except.ok (reportCount_mapSink hf m l'' (before ++ log))

theorem loadThenClose_mapSink (hf : Sink.Carries f) (plan : LoadPlan) (elapsed : Duration) (l : Loader σ) :
    (l.mapSink f).loadThenClose plan elapsed = (l.loadThenClose plan elapsed).map (Outcome.mapSink f) := by
  unfold loadThenClose
  rw [loadTable_mapSink hf]
  cases l.loadTable plan elapsed with
  | error t => rfl
  | ok loaded =>
    have hclose := close_mapSink hf loaded.loader
    simp only [Except.map, Outcome.mapSink, hclose]

end

end Loader

/-- A record with some calls in front. -/
def Recording.behind (before : Array SinkCall) (r : Recording σ) : Recording σ := ⟨r.sink, before ++ r.calls⟩

theorem Sink.carriesWrites_behind [Sink σ] (before : Array SinkCall) :
    CarriesWrites (Recording.behind before : Recording σ → Recording σ) := by
  intro s statement
  show Reply.mk _ (Recording.mk _ ((before ++ s.calls).push _)) _ = Reply.mk _ (Recording.mk _ (before ++ s.calls.push _)) _
  rw [Array.append_push]
  rfl

namespace LoadPlan

variable [Sink σ] (plan : LoadPlan)

/-- The calls of a load before its run. -/
def firstCalls : Array SinkCall := if plan.truncate then #[.truncate plan.table] else #[]

theorem clearing_recording (sink : σ) : plan.clearing (⟨sink, #[]⟩ : Recording σ) =
    ((plan.clearing sink).1, ⟨(plan.clearing sink).2, plan.firstCalls⟩) := by
  unfold clearing firstCalls
  cases plan.truncate with
  | false => rfl
  | true => rfl

theorem calls_of_recording {cleared : Except LoadError Unit × Recording σ}
    {ran : Outcome (Recording σ) (Except Aborted Metrics)} {statements : List Sql.Statement}
    (hcleared : cleared.2.calls = plan.firstCalls)
    (hran : ran.loader.sink.calls = plan.firstCalls ++ (statements.map SinkCall.write).toArray) :
    (Sink.close (plan.lastSink cleared ran)).sink.calls.toList = plan.calls cleared.1 statements ran.answer := by
  show ((plan.lastSink cleared ran).calls.push .close).toList = _
  unfold lastSink calls
  cases cleared.1 with
  | error e =>
    cases htruncate : plan.truncate <;> simp [Except.isOk, Except.toBool, hcleared, firstCalls, htruncate]
  | ok =>
    cases ran.answer with
    | error a =>
      cases htruncate : plan.truncate <;> simp [Except.isOk, Except.toBool, hran, firstCalls, htruncate]
    | ok m =>
      cases htruncate : plan.truncate with
      | false => simp [Except.isOk, Except.toBool, hran, firstCalls, htruncate]
      | true =>
        have hcount : (Sink.count ran.loader.sink plan.table).sink.calls = ran.loader.sink.calls.push (.count plan.table) :=
          rfl
        simp [Except.isOk, Except.toBool, hcount, hran, firstCalls, htruncate]

end LoadPlan

/-! ### sinks that misreport -/

/-- A sink that counts and closes as the one below it, but answers `closing` to every close and `rows` to every count that
succeeds. -/
structure Misreporting (σ : Type) where
  sink : σ
  rows : UInt64
  closing : Except LoadError Unit

namespace Misreporting

def answering {α β : Type} (s : Misreporting σ) (r : Reply σ α) (answer : Except LoadError β) : Reply (Misreporting σ) β :=
  ⟨answer, { s with sink := r.sink }, r.log⟩

instance [Sink σ] : Sink (Misreporting σ) where
  truncate s table := s.answering (Sink.truncate s.sink table) (Sink.truncate s.sink table).answer
  write s statement := s.answering (Sink.write s.sink statement) (Sink.write s.sink statement).answer
  count s table := s.answering (Sink.count s.sink table) ((Sink.count s.sink table).answer.map fun _ => s.rows)
  close s := s.answering (Sink.close s.sink) s.closing

theorem carriesWrites [Sink σ] (rows : UInt64) (closing : Except LoadError Unit) :
    Sink.CarriesWrites (fun s : σ => Misreporting.mk s rows closing) := fun _ _ => rfl

theorem clearing [Sink σ] (plan : LoadPlan) (s : σ) (rows : UInt64) (closing : Except LoadError Unit) :
    plan.clearing (Misreporting.mk s rows closing) = ((plan.clearing s).1, ⟨(plan.clearing s).2, rows, closing⟩) := by
  unfold LoadPlan.clearing
  cases plan.truncate with
  | false => rfl
  | true => rfl

theorem counted [Sink σ] (s : σ) (table : String) (rows : UInt64) (closing : Except LoadError Unit) :
    ((Sink.count (Misreporting.mk s rows closing) table).answer.map fun _ => ()) =
      (Sink.count s table).answer.map fun _ => () := by
  show ((Sink.count s table).answer.map fun _ => rows).map _ = _
  cases (Sink.count s table).answer with
  | error e => rfl
  | ok n => rfl

end Misreporting

namespace Loader

variable [Sink σ] {plan : LoadPlan} {createdAt : Timestamp} {sink : σ} {elapsed : Duration}

theorem exists_recordedLoad {ran : Outcome (Recording σ) (Except Aborted Metrics)} {statements : List Sql.Statement}
    (hran : (ofPlan plan createdAt (⟨(plan.clearing sink).2, #[]⟩ : Recording σ)).run elapsed plan.batchCount = .ok ran)
    (hcalls : ran.loader.sink.calls = (statements.map SinkCall.write).toArray) :
    ∃ r, (ofPlan plan createdAt (⟨sink, #[]⟩ : Recording σ)).loadThenClose plan elapsed = .ok r ∧
      r.loader.sink.calls.toList = plan.calls (plan.clearing sink).1 statements ran.answer := by
  -- the run comes behind the calls that were made before it
  have hbehind := run_mapSink (Sink.carriesWrites_behind plan.firstCalls)
    (ofPlan plan createdAt (⟨(plan.clearing sink).2, #[]⟩ : Recording σ)) elapsed plan.batchCount
  rw [hran] at hbehind
  have hstart : (ofPlan plan createdAt (⟨(plan.clearing sink).2, #[]⟩ : Recording σ)).mapSink
      (Recording.behind plan.firstCalls) = ofPlan plan createdAt ⟨(plan.clearing sink).2, plan.firstCalls⟩ := by
    show ofPlan plan createdAt (Recording.mk (plan.clearing sink).2 (plan.firstCalls ++ #[])) = _
    rw [Array.append_empty]
  rw [hstart] at hbehind
  obtain ⟨r, hload, -, hsink⟩ := exists_load_ofPlan (plan.clearing_recording sink) hbehind
  refine ⟨r, hload, ?_⟩
  rw [hsink]
  refine plan.calls_of_recording rfl ?_
  show plan.firstCalls ++ ran.loader.sink.calls = _
  rw [hcalls]

/-- What closing answers, and the number counted, do not show in the answer. -/
theorem exists_misreportedLoad {ran : Outcome σ (Except Aborted Metrics)}
    (hran : (ofPlan plan createdAt (plan.clearing sink).2).run elapsed plan.batchCount = .ok ran) (rows : UInt64)
    (closing : Except LoadError Unit) :
    ∃ o, (ofPlan plan createdAt (Misreporting.mk sink rows closing)).loadThenClose plan elapsed = .ok o ∧
      o.answer = plan.answer (plan.clearing sink).1 ran.answer
        ((Sink.count ran.loader.sink plan.table).answer.map fun _ => ()) := by
  have hmap := run_mapSink (Misreporting.carriesWrites rows closing) (ofPlan plan createdAt (plan.clearing sink).2) elapsed
    plan.batchCount
  rw [hran] at hmap
  obtain ⟨o, hload, hanswer, -⟩ := exists_load_ofPlan (Misreporting.clearing plan sink rows closing) hmap
  refine ⟨o, hload, hanswer.trans ?_⟩
  show plan.answer _ ran.answer ((Sink.count (Misreporting.mk ran.loader.sink rows closing) plan.table).answer.map _) = _
  rw [Misreporting.counted]

/-! ### whole loads -/

/-- **The calls of a load.** Over any sink a load ends, and the record of its calls is: `truncate` if the plan asks for it;
behind it, unless it was refused, the writes of the run; `count` if the table was truncated and the run went through; and one
`close`, on every way. Its answer is that of the run, unless truncating or counting fails, whatever number is counted and
however closing goes. -/
theorem load_calls_in_order (plan : LoadPlan) (createdAt : Timestamp) (sink : σ) (elapsed : Duration) :
    ∃ (statements : List Sql.Statement) (ran : Outcome σ (Except Aborted Metrics))
      (recordedRun : Outcome (Recording σ) (Except Aborted Metrics)) (o : Outcome σ (Except CommandError Metrics))
      (r : Outcome (Recording σ) (Except CommandError Metrics)),
      (ofPlan plan createdAt (plan.clearing sink).2).run elapsed plan.batchCount = .ok ran ∧
      (ofPlan plan createdAt (⟨(plan.clearing sink).2, #[]⟩ : Recording σ)).run elapsed plan.batchCount = .ok recordedRun ∧
      recordedRun.unrecorded = ran ∧ recordedRun.loader.sink.calls = (statements.map SinkCall.write).toArray ∧
      (ofPlan plan createdAt sink).loadThenClose plan elapsed = .ok o ∧
      (ofPlan plan createdAt (⟨sink, #[]⟩ : Recording σ)).loadThenClose plan elapsed = .ok r ∧
      r.unrecorded = o ∧
      r.loader.sink.calls.toList = plan.calls (plan.clearing sink).1 statements ran.answer ∧
      (∀ m, o.answer = .ok m ↔ (plan.clearing sink).1 = .ok () ∧ ran.answer = .ok m ∧
        (plan.truncate = true → ∃ rows, (Sink.count ran.loader.sink plan.table).answer = .ok rows)) ∧
      (∀ e, (plan.clearing sink).1 = .error e → o.answer = .error (.reset (.reset plan.table e)) ∧
        ∀ statement, .write statement ∉ r.loader.sink.calls.toList) ∧
      ∀ rows closing, ∃ o', (ofPlan plan createdAt (Misreporting.mk sink rows closing)).loadThenClose plan elapsed = .ok o' ∧
        o'.answer = o.answer := by
  obtain ⟨statements, ran, recordedRun, hran, -, -, hrecordedRun, hunrecorded, hcalls⟩ :=
    exists_recorded_course (ofPlan plan createdAt (plan.clearing sink).2) elapsed plan.batchCount
  obtain ⟨o, hload, hanswer, -⟩ := exists_load_ofPlan (rfl : plan.clearing sink = plan.clearing sink) hran
  obtain ⟨r, hrecorded, hlist⟩ := exists_recordedLoad hrecordedRun hcalls
  have hrunanswer : recordedRun.answer = ran.answer := congrArg Outcome.answer hunrecorded
  have hloads : r.unrecorded = o := by
    have hmap := loadThenClose_mapSink Sink.carries_recording plan elapsed (ofPlan plan createdAt (⟨sink, #[]⟩ : Recording σ))
    rw [hrecorded] at hmap
    exact Except.ok.inj (hmap.symm.trans hload)
  rw [hrunanswer] at hlist
  refine ⟨statements, ran, recordedRun, o, r, hran, hrecordedRun, hunrecorded, hcalls, hload, hrecorded, hloads, hlist,
    fun m => ?_, fun e he => ⟨?_, fun statement => ?_⟩, fun rows closing => ?_⟩
  · rw [hanswer, LoadPlan.answer_eq_ok_iff, map_unit_eq_ok_iff]
  · rw [hanswer, he, LoadPlan.answer_of_uncleared]
  · rw [hlist, he]
    exact plan.write_notMem_calls_of_uncleared e statements ran.answer statement
  · obtain ⟨o', hload', hanswer'⟩ := exists_misreportedLoad hran rows closing
    exact ⟨o', hload', hanswer'.trans hanswer.symm⟩

/-- A sink that refuses the first truncation and the first close is truncated and closed, and nothing else. -/
theorem load_calls_of_locked_table :
    ∃ r, (ofPlan (.ofProfile .thing) .epoch (⟨{ failing := { truncates := [1], closes := [1] } }, #[]⟩ :
        Recording CountingSink)).loadThenClose (.ofProfile .thing) .zero = .ok r ∧
      r.answer = .error (.reset (.reset "thingbaseinfodata_tbl" (.connection "Duplicate entry"))) ∧
      r.loader.sink.calls.toList = [.truncate "thingbaseinfodata_tbl", .close] := by
  obtain ⟨statements, ran, _, o, r, -, -, -, -, -, hload, hsame, hcalls, -, hreset, -⟩ :=
    load_calls_in_order (.ofProfile .thing) .epoch
      ({ failing := { truncates := [1], closes := [1] } } : CountingSink) .zero
  have hrefused : ((LoadPlan.ofProfile .thing).clearing
      ({ failing := { truncates := [1], closes := [1] } } : CountingSink)).1 = .error (.connection "Duplicate entry") := rfl
  obtain ⟨hanswer, -⟩ := hreset _ hrefused
  rw [hrefused] at hcalls
  refine ⟨r, hload, ?_, hcalls⟩
  rw [← hsame] at hanswer
  exact hanswer

end Loader

end RowLoader
