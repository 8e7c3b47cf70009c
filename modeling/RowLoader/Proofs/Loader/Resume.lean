import RowLoader.Proofs.Loader.History
import RowLoader.Sink.Counting

/-!
# Resuming a load

A run that got through can be gone on with, by the same loader or by a fresh one that starts behind it. Both do what one long
run would have done behind its first batches, as each batch is a function of its own start.

* `Loader.Course.exists_run`: a course is what a run does, so a run has only one, `Loader.Course.unique`;
* `Loader.Course.resume`: the course behind some batches that passed is the end of a longer one;
* `Loader.run_resumes`: a run, the rest, and the long run, call by call.
-/

namespace RowLoader

namespace Loader

variable {σ : Type} [Sink σ] {l l' l'' : Loader σ} {elapsed : Duration} {statements : List Sql.Statement}
  {answer : Except Aborted Metrics}

/-! ### a course is what a run does -/

/-- A run goes through batches that pass. -/
theorem runFrom_of_passed (target : checkTarget l.profile l.table l.batchSize = .ok ()) (passed : l.Passed statements)
    (elapsed : Duration) (left : Nat) (log : Log) :
    ∃ log', runFrom elapsed (statements.length + left) 0 .zero l log =
      runFrom elapsed left (UInt64.ofNat statements.length) (l.counters statements.length .zero)
        (l.atBatch statements.length (Sink.feed l.sink statements)) log' := by
  induction passed generalizing left with
  | nil =>
    refine ⟨log, ?_⟩
    rw [List.length_nil, Nat.zero_add, counters_zero, Sink.feed_nil, atBatch_zero]
    rfl
  | concat front checked made accepted ih =>
    obtain ⟨log', hfront⟩ := ih (left + 1)
    obtain ⟨log'', hnext⟩ := runFrom_of_accepted target front.batchStart_lt checked made accepted elapsed left log'
    refine ⟨log'', ?_⟩
    rw [List.length_append, List.length_singleton, Sink.feed_concat, Nat.add_assoc, Nat.add_comm 1 left, hfront, hnext]

/-- A run that gets through some batches is the run of the batches left. -/
theorem run_of_passed (target : checkTarget l.profile l.table l.batchSize = .ok ()) (passed : l.Passed statements)
    {n : UInt64} {left : Nat} (hleft : n.toNat = statements.length + left) (elapsed : Duration) :
    ∃ log, l.run elapsed n = runFrom elapsed left (UInt64.ofNat statements.length) (l.counters statements.length .zero)
      (l.atBatch statements.length (Sink.feed l.sink statements)) log := by
  obtain ⟨log, hpassed⟩ := runFrom_of_passed target passed elapsed left #[.loading n l.batchSize l.table l.profile l.offset]
  refine ⟨log, ?_⟩
  unfold run
  rw [target, ← hpassed, ← hleft]

theorem Course.exists_run {n : UInt64} (h : l.Course elapsed n.toNat statements answer l') :
    ∃ log, l.run elapsed n = .ok ⟨answer, l', log⟩ := by
  cases h with
  | rejected target => exact ⟨_, run_of_refused target elapsed n⟩
  | complete target passed all =>
    have hleft : n.toNat = statements.length + 0 := all.symm
    obtain ⟨log, hrun⟩ := run_of_passed target passed hleft elapsed
    rw [hrun, all]
    exact ⟨_, rfl⟩
  | @exhausted statements e target passed more left =>
    obtain ⟨k, hk⟩ : ∃ k, n.toNat = statements.length + (k + 1) := ⟨n.toNat - statements.length - 1, by omega⟩
    obtain ⟨log, hrun⟩ := run_of_passed target passed hk elapsed
    rw [hrun]
    exact ⟨log, runFrom_of_overflow (l := l.atBatch statements.length (Sink.feed l.sink statements)) left elapsed k _ _ log⟩
  | @refused statements statement e target passed more checked made answer =>
    obtain ⟨k, hk⟩ : ∃ k, n.toNat = statements.length + (k + 1) := ⟨n.toNat - statements.length - 1, by omega⟩
    obtain ⟨log, hrun⟩ := run_of_passed target passed hk elapsed
    rw [hrun, Sink.feed_concat]
    exact runFrom_of_refused target passed.batchStart_lt checked made answer elapsed k log

theorem Course.batchStart_lt {n : Nat} (h : l.Course elapsed n statements answer l') :
    l.batchStart statements.length < 2 ^ 64 := by
  cases h with
  | rejected target =>
    rw [List.length_nil, batchStart_zero]
    exact l.offset.toNat_lt
  | complete target passed all => exact passed.batchStart_lt
  | exhausted target passed more left => exact passed.batchStart_lt
  | refused target passed more checked made answer =>
    have hlast : lastOffset < 2 ^ 64 := by decide
    rw [List.length_append, List.length_singleton]
    exact Nat.lt_of_le_of_lt (batchStart_le_of_check passed.batchStart_lt checked) hlast

/-- Only a run that is not rejected hands over statements. -/
theorem Course.target_of_ne_nil {n : Nat} (h : l.Course elapsed n statements answer l') (hne : statements ≠ []) :
    checkTarget l.profile l.table l.batchSize = .ok () := by
  cases h with
  | rejected target => exact absurd rfl hne
  | complete target passed all => exact target
  | exhausted target passed more left => exact target
  | refused target passed more checked made answer => exact target

/-- **A run goes one way only.** -/
theorem Course.unique {n : UInt64} {statements' : List Sql.Statement} {answer' : Except Aborted Metrics}
    (h : l.Course elapsed n.toNat statements answer l') (h' : l.Course elapsed n.toNat statements' answer' l'') :
    statements = statements' ∧ answer = answer' ∧ l' = l'' := by
  obtain ⟨log, hrun⟩ := h.exists_run
  obtain ⟨log', hrun'⟩ := h'.exists_run
  cases hrun.symm.trans hrun'
  refine ⟨?_, rfl, rfl⟩
  -- the offset at the end tells how many statements there are
  have hstart := (h.conserves h.batchStart_lt).1
  rw [(h'.conserves h'.batchStart_lt).1] at hstart
  have hmul : statements'.length * l.batchSize.toNat = statements.length * l.batchSize.toNat := Nat.add_left_cancel hstart
  have hlength : statements.length = statements'.length := by
    by_cases hnil : statements = [] ∧ statements' = []
    · rw [hnil.1, hnil.2]
    · have target : checkTarget l.profile l.table l.batchSize = .ok () := by
        by_cases hne : statements = []
        · exact h'.target_of_ne_nil fun hne' => hnil ⟨hne, hne'⟩
        · exact h.target_of_ne_nil hne
      exact (Nat.eq_of_mul_eq_mul_right (batchSize_pos target) hmul).symm
  refine List.ext_getElem hlength fun i hi hi' => ?_
  exact Except.ok.inj ((h.batchStatement_getElem hi).symm.trans (h'.batchStatement_getElem hi'))

/-! ### behind the first batches -/

omit [Sink σ] in
theorem batchCheck_atBatch {k : Nat} (hk : l.batchStart k < 2 ^ 64) (s : σ) (i : Nat) :
    (l.atBatch k s).batchCheck i = l.batchCheck (k + i) := by
  unfold batchCheck
  rw [batchStart_atBatch hk]
  rfl

omit [Sink σ] in
/-- The counters of two parts add up to those of the whole. -/
theorem counters_add {k i : Nat} (hsize : 0 < l.batchSize.toNat) (hend : l.batchStart (k + i) < 2 ^ 64)
    (elapsed elapsed' elapsed'' : Duration) :
    (l.counters (k + i) elapsed).written.toNat =
      (l.counters k elapsed').written.toNat + (l.counters i elapsed'').written.toNat ∧
    (l.counters (k + i) elapsed).commits.toNat =
      (l.counters k elapsed').commits.toNat + (l.counters i elapsed'').commits.toNat := by
  have hk : l.batchStart k < 2 ^ 64 := Nat.lt_of_le_of_lt (l.batchStart_mono (Nat.le_add_right k i)) hend
  have hi : l.batchStart i < 2 ^ 64 := Nat.lt_of_le_of_lt (l.batchStart_mono (Nat.le_add_left i k)) hend
  obtain ⟨hwritten, hcommits⟩ := toNat_counters hsize hend elapsed
  obtain ⟨hwritten', hcommits'⟩ := toNat_counters hsize hk elapsed'
  obtain ⟨hwritten'', hcommits''⟩ := toNat_counters hsize hi elapsed''
  rw [hwritten, hwritten', hwritten'', hcommits, hcommits', hcommits'']
  exact ⟨Nat.add_mul _ _ _, rfl⟩

/-- The sink of a loader on its way, fed with more. -/
theorem feed_atBatch (k : Nat) (front more : List Sql.Statement) :
    Sink.feed (l.atBatch k (Sink.feed l.sink front)).sink more = Sink.feed l.sink (front ++ more) :=
  (Sink.feed_append l.sink front more).symm

theorem Passed.append {front more : List Sql.Statement} (h : l.Passed front)
    (h' : (l.atBatch front.length (Sink.feed l.sink front)).Passed more) : l.Passed (front ++ more) := by
  induction h' with
  | nil =>
    rw [List.append_nil]
    exact h
  | concat _ checked made accepted ih =>
    rw [batchCheck_atBatch h.batchStart_lt, ← List.length_append] at checked
    rw [batchStatement_atBatch h.batchStart_lt, ← List.length_append] at made
    rw [feed_atBatch] at accepted
    rw [← List.append_assoc]
    exact ih.concat checked made accepted

/-- The same failure, told by a run and by a run that starts `k` batches earlier. -/
inductive SameFailure (k : Nat) : LoadError → LoadError → Prop where
  | batch {i j offset rows : UInt64} {cause : LoadError} (number : j.toNat = k + i.toNat) :
      SameFailure k (.batch i offset rows cause) (.batch j offset rows cause)
  | keySpace (e : KeySpaceOverflow) : SameFailure k (.keySpace e) (.keySpace e)

/-- The answer of a whole run, against the answer `rest` of the part behind its first `k` batches, which ended with `m`. -/
structure Continues (k : Nat) (m : Metrics) (rest whole : Except Aborted Metrics) : Prop where
  isOk : whole.isOk = rest.isOk
  written : (endMetrics whole).written.toNat = m.written.toNat + (endMetrics rest).written.toNat
  failed : (endMetrics whole).failed.toNat = m.failed.toNat + (endMetrics rest).failed.toNat
  commits : (endMetrics whole).commits.toNat = m.commits.toNat + (endMetrics rest).commits.toNat
  failure : ∀ a b, rest = .error a → whole = .error b → SameFailure k a.error b.error

/-- **Resuming.** A course behind batches that passed is the end of the course from the first of them on. -/
theorem Course.resume {front more : List Sql.Statement} {n : Nat} {rest : Except Aborted Metrics}
    {elapsed' : Duration} (target : checkTarget l.profile l.table l.batchSize = .ok ()) (passed : l.Passed front)
    (h : (l.atBatch front.length (Sink.feed l.sink front)).Course elapsed' n more rest l') (elapsed elapsed'' : Duration) :
    ∃ whole, l.Course elapsed (front.length + n) (front ++ more) whole l' ∧
      Continues front.length (l.counters front.length elapsed'') rest whole := by
  have hk := passed.batchStart_lt
  have hlt := h.batchStart_lt
  rw [batchStart_atBatch hk] at hlt
  cases h with
  | rejected target' => cases target.symm.trans target'
  | complete _ passed' all =>
    subst all
    obtain ⟨hwritten, hcommits⟩ := counters_add (batchSize_pos target) hlt elapsed elapsed'' elapsed'
    rw [atBatch_atBatch hk, feed_atBatch]
    refine ⟨.ok (l.counters (front.length + more.length) elapsed), ?_, ⟨rfl, hwritten, rfl, hcommits, ?_⟩⟩
    · exact .complete target (passed.append passed') List.length_append
    · intro a b ha
      cases ha
  | exhausted _ passed' hmore left =>
    obtain ⟨hwritten, hcommits⟩ := counters_add (batchSize_pos target) hlt elapsed elapsed'' elapsed'
    have hmore' : (front ++ more).length < front.length + n := by
      rw [List.length_append]
      omega
    rw [← List.length_append] at hwritten hcommits
    rw [batchCheck_atBatch hk, ← List.length_append] at left
    rw [atBatch_atBatch hk, feed_atBatch, ← List.length_append]
    refine ⟨_, .exhausted target (passed.append passed') hmore' left, ⟨rfl, hwritten, rfl, hcommits, ?_⟩⟩
    rintro a b ⟨⟩ ⟨⟩
    exact .keySpace _
  | @refused statements statement e _ passed' hmore checked made answer =>
    have hlt' := passed'.batchStart_lt
    rw [batchStart_atBatch hk] at hlt'
    obtain ⟨hwritten, hcommits⟩ := counters_add (batchSize_pos target) hlt' elapsed elapsed'' elapsed'
    have hmore' : (front ++ statements).length < front.length + n := by
      rw [List.length_append]
      omega
    rw [← List.length_append] at hwritten hcommits
    rw [batchCheck_atBatch hk, ← List.length_append] at checked
    rw [batchStatement_atBatch hk, ← List.length_append] at made
    rw [feed_atBatch] at answer
    rw [atBatch_atBatch hk, batchStart_atBatch hk, feed_atBatch, ← List.append_assoc, ← Nat.add_assoc, ← List.length_append]
    refine ⟨_, .refused target (passed.append passed') hmore' checked made answer,
      ⟨rfl, hwritten, (Nat.zero_add _).symm, hcommits, ?_⟩⟩
    rintro a b ⟨⟩ ⟨⟩
    -- the number of a batch is that of the commits before it
    have hnumber := hcommits
    rw [(toNat_counters (batchSize_pos target) hk elapsed'').2] at hnumber
    exact .batch hnumber

/-! ### whole loads -/

/-- The calls of the sink that a run makes. -/
def runCalls (l : Loader σ) (elapsed : Duration) (n : UInt64) : Except Trap (List SinkCall) :=
  ((l.withSink (⟨l.sink, #[]⟩ : Recording σ)).run elapsed n).map fun o => o.loader.sink.calls.toList

theorem exists_runCalls (l : Loader σ) (elapsed : Duration) (n : UInt64) :
    ∃ statements o, l.run elapsed n = .ok o ∧ l.Course elapsed n.toNat statements o.answer o.loader ∧
      l.runCalls elapsed n = .ok (statements.map .write) := by
  obtain ⟨statements, o, r, hrun, hcourse, -, hrecorded, -, hcalls⟩ := exists_recorded_course l elapsed n
  refine ⟨statements, o, hrun, hcourse, ?_⟩
  unfold runCalls
  rw [hrecorded]
  show Except.ok r.loader.sink.calls.toList = _
  rw [hcalls]

theorem Course.complete_of_ok {n : Nat} {m : Metrics} (h : l.Course elapsed n statements (.ok m) l') :
    checkTarget l.profile l.table l.batchSize = .ok () ∧ l.Passed statements ∧ statements.length = n ∧
      m = l.counters n elapsed ∧ l' = l.atBatch n (Sink.feed l.sink statements) := by
  cases h with
  | complete target passed all => exact ⟨target, passed, all, rfl, rfl⟩

omit [Sink σ] in
theorem ofNat_batchStart_ofPlan (plan : LoadPlan) (createdAt : Timestamp) (sink : σ) (a : UInt64) :
    UInt64.ofNat ((ofPlan plan createdAt sink).batchStart a.toNat) = plan.startOffset + a * plan.batchSize := by
  show UInt64.ofNat (plan.startOffset.toNat + a.toNat * plan.batchSize.toNat) = _
  rw [UInt64.ofNat_add, UInt64.ofNat_mul, UInt64.ofNat_toNat, UInt64.ofNat_toNat, UInt64.ofNat_toNat]

omit [Sink σ] in
/-- The loader of a plan, on its way, is the one of the plan that starts there. -/
theorem atBatch_ofPlan (plan : LoadPlan) (createdAt : Timestamp) (sink s : σ) (a : UInt64) :
    (ofPlan plan createdAt sink).atBatch a.toNat s =
      ofPlan { plan with startOffset := plan.startOffset + a * plan.batchSize } createdAt s := by
  unfold atBatch batchGenerator
  rw [ofNat_batchStart_ofPlan]
  rfl

/-- **Resuming continues the same load.** After a run of `a` batches that got through, a run of `b` more makes the calls
that a run of `a + b` batches makes behind its first `a`, and leaves the loader as that run does. Its answer differs from
the long run's only in that the counters and batch numbers of the `a` batches are missing. The loader after the first run is
a fresh one whose plan starts behind it. -/
theorem run_resumes (plan : LoadPlan) (createdAt : Timestamp) (sink : σ) (a b : UInt64) (elapsed elapsed' elapsed'' : Duration)
    {first : Outcome σ (Except Aborted Metrics)} {m : Metrics} (hsum : a.toNat + b.toNat < 2 ^ 64)
    (hfirst : (ofPlan plan createdAt sink).run elapsed a = .ok first) (hok : first.answer = .ok m) :
    first.loader = ofPlan { plan with startOffset := plan.startOffset + a * plan.batchSize } createdAt first.loader.sink ∧
    (plan.startOffset + a * plan.batchSize).toNat = plan.startOffset.toNat + a.toNat * plan.batchSize.toNat ∧
    ∃ front more rest whole,
      (ofPlan plan createdAt sink).runCalls elapsed a = .ok front ∧ front.length = a.toNat ∧
      first.loader.run elapsed' b = .ok rest ∧ first.loader.runCalls elapsed' b = .ok more ∧
      (ofPlan plan createdAt sink).run elapsed'' (a + b) = .ok whole ∧
      (ofPlan plan createdAt sink).runCalls elapsed'' (a + b) = .ok (front ++ more) ∧
      whole.loader = rest.loader ∧
      Continues a.toNat m rest.answer whole.answer := by
  obtain ⟨front, o, hrun, hcourse, hfront⟩ := exists_runCalls (ofPlan plan createdAt sink) elapsed a
  cases hrun.symm.trans hfirst
  rw [hok] at hcourse
  obtain ⟨target, passed, hlength, rfl, hloader⟩ := hcourse.complete_of_ok
  have hend := passed.batchStart_lt
  rw [hlength] at hend
  obtain ⟨more, rest, hrest, hrestCourse, hmore⟩ := exists_runCalls first.loader elapsed' b
  obtain ⟨all, whole, hwhole, hwholeCourse, hall⟩ := exists_runCalls (ofPlan plan createdAt sink) elapsed'' (a + b)
  -- the course of the long run is that of the rest, behind the batches of the first run
  have hbehind := hrestCourse
  rw [hloader, ← hlength] at hbehind
  obtain ⟨answer, hlong, hcontinues⟩ := hbehind.resume target passed elapsed'' elapsed
  have hcount : (a + b).toNat = front.length + b.toNat := by
    rw [UInt64.toNat_add, Nat.mod_eq_of_lt hsum, hlength]
  rw [← hcount] at hlong
  obtain ⟨rfl, rfl, heq⟩ := hwholeCourse.unique hlong
  rw [hlength] at hcontinues
  refine ⟨?_, ?_, front.map .write, more.map .write, rest, whole, hfront, ?_, hrest, hmore, hwhole, ?_, heq, hcontinues⟩
  · rw [hloader]
    exact atBatch_ofPlan plan createdAt sink _ a
  · rw [← ofNat_batchStart_ofPlan plan createdAt sink, toNat_ofNat_of_lt hend]
    rfl
  · rw [List.length_map, hlength]
  · rw [hall, List.map_append]

/-- Five batches of two device rows, for a sink that refuses the fourth. -/
def interrupted : Loader CountingSink :=
  ofPlan { LoadPlan.ofProfile .thing with batchSize := 2, batchCount := 5 } .epoch { failing := { writes := [4] } }

/-- The refused batch has number 3 in the long run, and number 1 behind the first two. -/
theorem run_resumes_to_refused_batch : ∃ first rest whole,
    interrupted.run .zero 2 = .ok first ∧ first.answer = .ok ⟨4, 0, 2, .zero⟩ ∧
    first.loader.run .zero 3 = .ok rest ∧
    rest.answer = .error ⟨⟨2, 2, 1, .zero⟩, .batch 1 6 2 (.connection "Duplicate entry")⟩ ∧
    interrupted.run .zero 5 = .ok whole ∧
    whole.answer = .error ⟨⟨6, 2, 3, .zero⟩, .batch 3 6 2 (.connection "Duplicate entry")⟩ ∧
    whole.loader = rest.loader ∧ Continues 2 ⟨4, 0, 2, .zero⟩ rest.answer whole.answer := by
  have hfirst : (interrupted.run .zero 2).map (·.answer) = .ok (.ok ⟨4, 0, 2, .zero⟩) := by decide +kernel
  have hrest : (interrupted.run .zero 2 >>= fun o => (o.loader.run .zero 3).map (·.answer)) =
    .ok (.error ⟨⟨2, 2, 1, .zero⟩, .batch 1 6 2 (.connection "Duplicate entry")⟩) := by decide +kernel
  have hwhole : (interrupted.run .zero 5).map (·.answer) =
    .ok (.error ⟨⟨6, 2, 3, .zero⟩, .batch 3 6 2 (.connection "Duplicate entry")⟩) := by decide +kernel
  obtain ⟨first, hrun, hok⟩ := map_eq_ok hfirst
  obtain ⟨-, -, -, -, rest, whole, -, -, hrest', -, hwhole', -, hloader, hcontinues⟩ :=
    run_resumes _ _ _ 2 3 .zero .zero .zero (by decide) hrun hok
  rw [hrun] at hrest
  obtain ⟨_, hrest'', hrestAnswer⟩ := map_eq_ok hrest
  cases hrest'.symm.trans hrest''
  obtain ⟨_, hwhole'', hwholeAnswer⟩ := map_eq_ok hwhole
  cases hwhole'.symm.trans hwhole''
  exact ⟨first, rest, whole, hrun, hok, hrest', hrestAnswer, hwhole', hwholeAnswer, hloader, hcontinues⟩

end Loader

end RowLoader
