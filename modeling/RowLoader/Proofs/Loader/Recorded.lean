import RowLoader.Proofs.Loader.Map

/-!
# Recorded runs

Keeping a record of the calls changes nothing else: `Loader.run_unrecorded`. So the record of a run tells which calls reach a
sink, and the course of the run tells which statements they carry.
-/

namespace RowLoader

variable {σ α : Type}

/-- The loader over the sink below the record. -/
def Loader.unrecorded (l : Loader (Recording σ)) : Loader σ := l.withSink l.sink.sink

def Outcome.unrecorded (o : Outcome (Recording σ) α) : Outcome σ α := ⟨o.answer, o.loader.unrecorded, o.log⟩

namespace Loader

variable [Sink σ]

/-- **A record changes nothing.** A run over a recording sink is the run over the sink below it. -/
theorem run_unrecorded (l : Loader (Recording σ)) (elapsed : Duration) (n : UInt64) :
    (l.run elapsed n).map Outcome.unrecorded = l.unrecorded.run elapsed n :=
  (run_mapSink Sink.carries_recording.writes l elapsed n).symm

/-! ### the calls of a run -/

/-- A run, its course, and the same run with a record of the calls. -/
theorem exists_recorded_course (l : Loader σ) (elapsed : Duration) (n : UInt64) :
    ∃ (statements : List Sql.Statement) (o : Outcome σ (Except Aborted Metrics))
      (r : Outcome (Recording σ) (Except Aborted Metrics)),
      l.run elapsed n = .ok o ∧ l.Course elapsed n.toNat statements o.answer o.loader ∧
      l.batchStart statements.length < 2 ^ 64 ∧
      (l.withSink (⟨l.sink, #[]⟩ : Recording σ)).run elapsed n = .ok r ∧
      r.unrecorded = o ∧ r.loader.sink.calls = (statements.map SinkCall.write).toArray := by
  obtain ⟨statements, r, hrun, hcourse, hlt⟩ := exists_course (l.withSink (⟨l.sink, #[]⟩ : Recording σ)) elapsed n
  have hunrecorded := run_unrecorded (l.withSink (⟨l.sink, #[]⟩ : Recording σ)) elapsed n
  rw [hrun] at hunrecorded
  refine ⟨statements, r.unrecorded, r, hunrecorded.symm, hcourse.mapSink Sink.carries_recording.writes, hlt, hrun, rfl, ?_⟩
  rw [hcourse.sink_eq, Sink.feed_recording]
  exact Array.empty_append

/-! ### exact numbers -/

/-- The counters a run ends with. -/
def endMetrics : Except Aborted Metrics → Metrics
  | .ok m => m
  | .error a => a.metrics

/-- The offset has moved past all statements, and each of their rows counts as written or as failed. -/
theorem Course.conserves {l l' : Loader σ} {elapsed : Duration} {n : Nat} {statements : List Sql.Statement}
    {answer : Except Aborted Metrics} (h : l.Course elapsed n statements answer l')
    (hlt : l.batchStart statements.length < 2 ^ 64) :
    l'.offset.toNat = l.batchStart statements.length ∧
      (endMetrics answer).written.toNat = (endMetrics answer).commits.toNat * l.batchSize.toNat ∧
      (endMetrics answer).written.toNat + (endMetrics answer).failed.toNat = statements.length * l.batchSize.toNat := by
  cases h with
  | rejected target =>
    rw [List.length_nil, batchStart_zero, Nat.zero_mul]
    exact ⟨rfl, (Nat.zero_mul _).symm, rfl⟩
  | complete target passed all =>
    subst all
    obtain ⟨hwritten, hcommits⟩ := toNat_counters (batchSize_pos target) hlt elapsed
    refine ⟨toNat_ofNat_of_lt hlt, ?_, ?_⟩
    · change (l.counters _ elapsed).written.toNat = (l.counters _ elapsed).commits.toNat * _
      rw [hwritten, hcommits]
    · change (l.counters _ elapsed).written.toNat + 0 = _
      rw [hwritten, Nat.add_zero]
  | exhausted target passed more left =>
    obtain ⟨hwritten, hcommits⟩ := toNat_counters (batchSize_pos target) hlt elapsed
    refine ⟨toNat_ofNat_of_lt hlt, ?_, ?_⟩
    · change (l.counters _ elapsed).written.toNat = (l.counters _ elapsed).commits.toNat * _
      rw [hwritten, hcommits]
    · change (l.counters _ elapsed).written.toNat + 0 = _
      rw [hwritten, Nat.add_zero]
  | refused target passed more checked made answer =>
    obtain ⟨hwritten, hcommits⟩ := toNat_counters (batchSize_pos target) passed.batchStart_lt elapsed
    rw [List.length_append, List.length_singleton] at hlt ⊢
    refine ⟨toNat_ofNat_of_lt hlt, ?_, ?_⟩
    · change (l.counters _ elapsed).written.toNat = (l.counters _ elapsed).commits.toNat * _
      rw [hwritten, hcommits]
    · change (l.counters _ elapsed).written.toNat + l.batchSize.toNat = _
      rw [hwritten, Nat.succ_mul]

/-- **The load loop, call by call.** A run over any sink ends without a trap and goes one of the ways of `Course`, with
numbers that no word cuts. The same run over the sink with a record answers and ends alike, and its calls are the writes of
the course's statements, in order. -/
theorem run_follows_course (plan : LoadPlan) (createdAt : Timestamp) (sink : σ) (elapsed : Duration) (n : UInt64) :
    ∃ (statements : List Sql.Statement) (o : Outcome σ (Except Aborted Metrics))
      (r : Outcome (Recording σ) (Except Aborted Metrics)),
      (ofPlan plan createdAt sink).run elapsed n = .ok o ∧
      (ofPlan plan createdAt sink).Course elapsed n.toNat statements o.answer o.loader ∧
      o.loader.offset.toNat = plan.startOffset.toNat + statements.length * plan.batchSize.toNat ∧
      (endMetrics o.answer).written.toNat = (endMetrics o.answer).commits.toNat * plan.batchSize.toNat ∧
      (endMetrics o.answer).written.toNat + (endMetrics o.answer).failed.toNat =
        statements.length * plan.batchSize.toNat ∧
      (ofPlan plan createdAt (⟨sink, #[]⟩ : Recording σ)).run elapsed n = .ok r ∧
      r.unrecorded = o ∧ r.loader.sink.calls = (statements.map SinkCall.write).toArray := by
  obtain ⟨statements, o, r, hrun, hcourse, hlt, hrecorded, hunrecorded, hcalls⟩ :=
    exists_recorded_course (ofPlan plan createdAt sink) elapsed n
  obtain ⟨hoffset, hcommits, hrows⟩ := hcourse.conserves hlt
  exact ⟨statements, o, r, hrun, hcourse, hoffset, hcommits, hrows, hrecorded, hunrecorded, hcalls⟩

end Loader

end RowLoader
