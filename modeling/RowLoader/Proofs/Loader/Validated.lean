import RowLoader.Proofs.Loader.Recorded
import RowLoader.Proofs.Plan.Validation
import RowLoader.Sink.Counting

/-!
# Valid plans

Validation looks once at the whole range of a plan, a run looks at each batch. Both agree: a run of a valid plan can only
fail by a refused batch, and a run of a plan that is not valid does not get through.
-/

namespace RowLoader

/-- A counting sink that is told to fail no write accepts all statements. -/
theorem CountingSink.accepts_of_no_failing {s : CountingSink} {statements : List Sql.Statement}
    (h : s.failing.writes = []) : Sink.Accepts s statements := by
  induction statements generalizing s with
  | nil => trivial
  | cons statement rest ih =>
    have hwrite : ∃ w s', Sink.write s statement = ⟨.ok w, s', #[]⟩ ∧ s'.failing.writes = [] := by
      refine ⟨_, _, if_neg ?_, h⟩
      rw [h]
      exact Bool.false_ne_true
    obtain ⟨w, s', heq, hnone⟩ := hwrite
    unfold Sink.Accepts
    rw [heq]
    exact ⟨⟨w, rfl⟩, ih hnone⟩

namespace Loader

variable {σ : Type} [Sink σ] {l l' : Loader σ} {elapsed : Duration} {n : Nat} {statements : List Sql.Statement}
  {answer : Except Aborted Metrics}

/-! ### the statements of a course -/

theorem Passed.exists_batch_of_mem (h : l.Passed statements) {statement : Sql.Statement} (hmem : statement ∈ statements) :
    ∃ i, l.batchStart i < 2 ^ 64 ∧ l.batchCheck i = .ok () ∧ l.batchStatement i = .ok statement := by
  induction h with
  | nil => cases hmem
  | concat front checked made accepted ih =>
    rcases List.mem_append.1 hmem with hmem | hmem
    · exact ih hmem
    · rw [List.mem_singleton] at hmem
      subst hmem
      exact ⟨_, front.batchStart_lt, checked, made⟩

theorem Course.exists_batch_of_mem (h : l.Course elapsed n statements answer l') {statement : Sql.Statement}
    (hmem : statement ∈ statements) : checkTarget l.profile l.table l.batchSize = .ok () ∧
      ∃ i, l.batchStart i < 2 ^ 64 ∧ l.batchCheck i = .ok () ∧ l.batchStatement i = .ok statement := by
  cases h with
  | rejected target => cases hmem
  | complete target passed all => exact ⟨target, passed.exists_batch_of_mem hmem⟩
  | exhausted target passed more left => exact ⟨target, passed.exists_batch_of_mem hmem⟩
  | refused target passed more checked made answer =>
    refine ⟨target, ?_⟩
    rcases List.mem_append.1 hmem with hmem | hmem
    · exact passed.exists_batch_of_mem hmem
    · rw [List.mem_singleton] at hmem
      subst hmem
      exact ⟨_, passed.batchStart_lt, checked, made⟩

omit [Sink σ] in
theorem batchStatement_getElem_concat {statement : Sql.Statement}
    (front : ∀ i (hi : i < statements.length), l.batchStatement i = .ok statements[i])
    (made : l.batchStatement statements.length = .ok statement) {i : Nat} (hi : i < (statements ++ [statement]).length) :
    l.batchStatement i = .ok (statements ++ [statement])[i] := by
  by_cases hfront : i < statements.length
  · rw [List.getElem_append_left hfront]
    exact front i hfront
  · rw [List.length_append, List.length_singleton] at hi
    obtain rfl : i = statements.length := by omega
    rw [List.getElem_concat_length rfl]
    exact made

/-- The statements come in the order of their batches. -/
theorem Passed.batchStatement_getElem (h : l.Passed statements) {i : Nat} (hi : i < statements.length) :
    l.batchStatement i = .ok statements[i] := by
  induction h generalizing i with
  | nil => cases hi
  | concat front checked made accepted ih => exact batchStatement_getElem_concat (fun i hi => ih hi) made hi

theorem Course.batchStatement_getElem (h : l.Course elapsed n statements answer l') {i : Nat}
    (hi : i < statements.length) : l.batchStatement i = .ok statements[i] := by
  cases h with
  | rejected target => cases hi
  | complete target passed all => exact passed.batchStatement_getElem hi
  | exhausted target passed more left => exact passed.batchStatement_getElem hi
  | refused target passed more checked made answer =>
    exact batchStatement_getElem_concat (fun i hi => passed.batchStatement_getElem hi) made hi

/-- Each statement has a row per record of a batch and few enough parameters. -/
theorem Course.shape_of_mem (h : l.Course elapsed n statements answer l') {statement : Sql.Statement}
    (hmem : statement ∈ statements) : statement.rows = l.batchSize.toNat ∧
      statement.parameters.length = statement.rows * l.profile.arity ∧
      statement.rows * l.profile.arity ≤ placeholderLimit := by
  obtain ⟨target, i, hi, checked, made⟩ := h.exists_batch_of_mem hmem
  obtain ⟨records, _, -, hrows, hstatement, hcount, hparameters, -⟩ := exists_batch hi checked
  cases made.symm.trans hstatement
  rw [hcount, hparameters, hrows.length_parametersOf]
  exact ⟨rfl, rfl, (checkTarget_eq_ok_iff.1 target).2.2⟩

/-! ### the end of a course -/

theorem Passed.batchStart_le (h : l.Passed statements) (hne : statements ≠ []) :
    l.batchStart statements.length ≤ lastOffset := by
  cases h with
  | nil => exact absurd rfl hne
  | concat front checked _ _ =>
    rw [List.length_append, List.length_singleton]
    exact batchStart_le_of_check front.batchStart_lt checked

/-- A run whose batches all lie in the key space only fails by a refused batch. -/
theorem Course.error_of_end_le (h : l.Course elapsed n statements answer l')
    (target : checkTarget l.profile l.table l.batchSize = .ok ()) (hend : l.batchStart n ≤ lastOffset) {a : Aborted}
    (ha : answer = .error a) : ∃ index offset rows e, a.error = .batch index offset rows e := by
  cases h with
  | rejected refusal => cases target.symm.trans refusal
  | complete => cases ha
  | exhausted _ passed more left => cases (batchCheck_of_end_le more hend).symm.trans left
  | refused =>
    cases ha
    exact ⟨_, _, _, _, rfl⟩

theorem Course.answer_of_accepts (h : l.Course elapsed n statements answer l')
    (target : checkTarget l.profile l.table l.batchSize = .ok ()) (hend : l.batchStart n ≤ lastOffset)
    (haccepts : Sink.Accepts l.sink statements) : answer = .ok (l.counters n elapsed) := by
  cases h with
  | rejected refusal => cases target.symm.trans refusal
  | complete => rfl
  | exhausted _ passed more left => cases (batchCheck_of_end_le more hend).symm.trans left
  | refused _ _ _ _ _ answer =>
    obtain ⟨-, rows, hrows⟩ := Sink.accepts_concat.1 haccepts
    cases hrows.symm.trans answer

/-- A run that would leave the key space does not get through, and says why unless a batch is refused. -/
theorem Course.error_of_lt_end (h : l.Course elapsed n statements answer l') (hpos : 0 < n)
    (hend : lastOffset < l.batchStart n) (haccepts : Sink.Accepts l.sink statements) :
    ∃ a, answer = .error a ∧ ((∃ r, a.error = .config r) ∨ ∃ e, a.error = .keySpace e) := by
  cases h with
  | rejected target => exact ⟨_, rfl, Or.inl ⟨_, rfl⟩⟩
  | complete target passed all =>
    subst all
    have hle := passed.batchStart_le (List.ne_nil_of_length_pos hpos)
    omega
  | exhausted target passed more left => exact ⟨_, rfl, Or.inr ⟨_, rfl⟩⟩
  | refused target passed more checked made answer =>
    obtain ⟨-, rows, hrows⟩ := Sink.accepts_concat.1 haccepts
    cases hrows.symm.trans answer

/-! ### plans -/

/-- **Validation agrees with the run.** For a sink with any answers, with the statements it was handed: a valid plan runs
without any failure but a refused batch, in statements of the batch size and few enough parameters, and in full if each of
them is accepted; a plan of at least one batch that is not valid fails for its target or the key space if no batch is
refused. -/
theorem run_agrees_with_validate (plan : LoadPlan) (createdAt : Timestamp) (sink : σ) (elapsed : Duration) :
    ∃ (statements : List Sql.Statement) (o : Outcome σ (Except Aborted Metrics))
      (r : Outcome (Recording σ) (Except Aborted Metrics)),
      (ofPlan plan createdAt sink).run elapsed plan.batchCount = .ok o ∧
      (ofPlan plan createdAt (⟨sink, #[]⟩ : Recording σ)).run elapsed plan.batchCount = .ok r ∧
      r.unrecorded = o ∧ r.loader.sink.calls = (statements.map SinkCall.write).toArray ∧
      (plan.validate = .ok () →
        (∀ a, o.answer = .error a → ∃ index offset rows e, a.error = .batch index offset rows e) ∧
        (∀ statement ∈ statements, statement.rows = plan.batchSize.toNat ∧
          statement.parameters.length = statement.rows * plan.profile.arity ∧
          statement.rows * plan.profile.arity ≤ 65535) ∧
        (Sink.Accepts sink statements → ∃ m, o.answer = .ok m ∧
          m.written.toNat = plan.batchCount.toNat * plan.batchSize.toNat ∧ m.written = plan.rows)) ∧
      (∀ refusal, plan.validate = .error refusal → 1 ≤ plan.batchCount.toNat → Sink.Accepts sink statements →
        ∃ a, o.answer = .error a ∧ ((∃ r, a.error = .config r) ∨ ∃ e, a.error = .keySpace e)) := by
  obtain ⟨statements, o, r, hrun, hcourse, -, hrecorded, hunrecorded, hcalls⟩ :=
    exists_recorded_course (ofPlan plan createdAt sink) elapsed plan.batchCount
  refine ⟨statements, o, r, hrun, hrecorded, hunrecorded, hcalls, fun hvalid => ?_, fun refusal hinvalid hpos haccepts => ?_⟩
  · obtain ⟨target, hend⟩ := LoadPlan.validate_eq_ok_iff.1 hvalid
    refine ⟨fun a ha => hcourse.error_of_end_le target hend ha, fun statement hmem => hcourse.shape_of_mem hmem, ?_⟩
    intro haccepts
    obtain ⟨hrows, hexact⟩ := LoadPlan.rows_of_validate hvalid
    have hanswer := hcourse.answer_of_accepts target hend haccepts
    refine ⟨_, hanswer, ?_, hrows.symm⟩
    rw [← hexact, hrows]
    rfl
  · cases target : checkTarget plan.profile plan.table plan.batchSize with
    | error r =>
      have hrefused := run_of_refused (l := ofPlan plan createdAt sink) target elapsed plan.batchCount
      rw [hrefused] at hrun
      cases hrun
      exact ⟨_, rfl, Or.inl ⟨r, rfl⟩⟩
    | ok =>
      have hend : ¬ plan.lastEnd ≤ lastOffset := by
        intro hle
        cases (LoadPlan.validate_eq_ok_iff.2 ⟨target, hle⟩).symm.trans hinvalid
      exact hcourse.error_of_lt_end hpos (Nat.lt_of_not_le hend) haccepts

/-- The user plan gets through; with a start behind the key space, or with more rows than a word counts, it does not. -/
theorem run_agrees_with_validate_of_users :
    (∃ o m, (ofPlan (.ofProfile .user) .epoch ({} : CountingSink)).run .zero 1000000 = .ok o ∧ o.answer = .ok m ∧
      m.written = 100000000) ∧
    ∀ plan ∈ [{ LoadPlan.ofProfile .user with startOffset := 0x8000000000000000 },
        { LoadPlan.ofProfile .user with batchCount := 0x1000000000000000 }],
      ∃ o a, (ofPlan plan .epoch ({} : CountingSink)).run .zero plan.batchCount = .ok o ∧ o.answer = .error a ∧
        ((∃ r, a.error = .config r) ∨ ∃ e, a.error = .keySpace e) := by
  constructor
  · obtain ⟨statements, o, -, hrun, -, -, -, hvalid, -⟩ :=
      run_agrees_with_validate (.ofProfile .user) .epoch ({} : CountingSink) .zero
    obtain ⟨-, -, hfull⟩ := hvalid (by decide +kernel)
    obtain ⟨m, hm, -, hwritten⟩ := hfull (CountingSink.accepts_of_no_failing rfl)
    refine ⟨o, m, hrun, hm, ?_⟩
    rw [hwritten]
    decide +kernel
  · intro plan hplan
    have hrefused : plan.validate ≠ .ok () ∧ 1 ≤ plan.batchCount.toNat := by
      revert plan
      decide +kernel
    obtain ⟨statements, o, -, hrun, -, -, -, -, hinvalid⟩ :=
      run_agrees_with_validate plan .epoch ({} : CountingSink) .zero
    cases hanswer : plan.validate with
    | ok => exact absurd hanswer hrefused.1
    | error refusal =>
      obtain ⟨a, ha, hcause⟩ := hinvalid refusal hanswer hrefused.2 (CountingSink.accepts_of_no_failing rfl)
      exact ⟨o, a, hrun, ha, hcause⟩

end Loader

end RowLoader
