import RowLoader.Proofs.Loader.Recorded
import RowLoader.Proofs.Loader.Validated

/-!
# The history of a loader

Any calls of one loader, one after the other. Only runs move the offset, by one batch for each statement they hand over,
whether it is accepted or refused, so no later run comes back to a batch.

* `Loader.performAll`: some calls in order, each with the calls of the sink that it made;
* `Loader.exists_perform`: one call, and the batches it hands over;
* `Loader.offsets_handed_out_once`: all batches that the runs among some calls hand over.
-/

namespace RowLoader

variable {σ : Type}

/-! ### calls of a loader -/

inductive LoaderCall where
  | run (elapsed : Duration) (n : UInt64)
  | clear
  | count
  | close
  | store (m : Metrics) (index : UInt64) (records : List Record)

def LoaderCall.isRun : LoaderCall → Bool
  | run .. => true
  | _ => false

def SinkCall.statement? : SinkCall → Option Sql.Statement
  | write statement => some statement
  | _ => none

/-- The statements handed over by the runs of a history. -/
def runStatements (history : List (LoaderCall × List SinkCall)) : List Sql.Statement :=
  history.flatMap fun entry => if entry.1.isRun then entry.2.filterMap SinkCall.statement? else []

theorem filterMap_statement_writes (statements : List Sql.Statement) :
    (statements.map SinkCall.write).filterMap SinkCall.statement? = statements := by
  rw [List.filterMap_map]
  exact List.filterMap_some

theorem runStatements_cons_run (elapsed : Duration) (n : UInt64) (statements : List Sql.Statement)
    (history : List (LoaderCall × List SinkCall)) :
    runStatements ((.run elapsed n, statements.map .write) :: history) = statements ++ runStatements history := by
  show (statements.map SinkCall.write).filterMap SinkCall.statement? ++ _ = _
  rw [filterMap_statement_writes]
  rfl

theorem runStatements_cons_of_not_run {call : LoaderCall} (h : call.isRun = false) (calls : List SinkCall)
    (history : List (LoaderCall × List SinkCall)) : runStatements ((call, calls) :: history) = runStatements history := by
  unfold runStatements
  rw [List.flatMap_cons, h]
  rfl

namespace Loader

section

variable [Sink σ]

/-- The loader after a call, whatever it answers. -/
def perform (l : Loader σ) : LoaderCall → Except Trap (Loader σ)
  | .run elapsed n => (l.run elapsed n).map Outcome.loader
  | .clear => .ok l.clear.loader
  | .count => .ok l.countRows.loader
  | .close => .ok l.close.loader
  | .store m index records => (l.store m index records).map Outcome.loader

theorem perform_run (l : Loader σ) (elapsed : Duration) (n : UInt64) :
    l.perform (.run elapsed n) = (l.run elapsed n).map Outcome.loader := rfl

theorem perform_store (l : Loader σ) (m : Metrics) (index : UInt64) (records : List Record) :
    l.perform (.store m index records) = (l.store m index records).map Outcome.loader := rfl

/-- Some calls in order, each with the calls of the sink that it made. -/
def performAll (l : Loader σ) : List LoaderCall → Except Trap (List (LoaderCall × List SinkCall) × Loader σ)
  | [] => .ok ([], l)
  | call :: rest => do
    let r ← (l.withSink (⟨l.sink, #[]⟩ : Recording σ)).perform call
    let (history, l') ← r.unrecorded.performAll rest
    return ((call, r.sink.calls.toList) :: history, l')

end

/-! ### loaders on their way -/

section

variable {l : Loader σ} {k : Nat}

theorem offset_atBatch (hk : l.batchStart k < 2 ^ 64) (s : σ) : (l.atBatch k s).offset.toNat = l.batchStart k :=
  toNat_ofNat_of_lt hk

theorem batchStart_atBatch (hk : l.batchStart k < 2 ^ 64) (s : σ) (i : Nat) :
    (l.atBatch k s).batchStart i = l.batchStart (k + i) := by
  unfold batchStart
  rw [offset_atBatch hk, Nat.add_mul, ← Nat.add_assoc]
  rfl

/-- The batches of a loader on its way are those left to the loader at its start. -/
theorem batchStatement_atBatch (hk : l.batchStart k < 2 ^ 64) (s : σ) (i : Nat) :
    (l.atBatch k s).batchStatement i = l.batchStatement (k + i) := by
  unfold batchStatement batchRecords
  rw [batchStart_atBatch hk]
  rfl

theorem atBatch_atBatch (hk : l.batchStart k < 2 ^ 64) (s s' : σ) (i : Nat) :
    (l.atBatch k s).atBatch i s' = l.atBatch (k + i) s' := by
  show Loader.mk s' { l.generator with offset := UInt64.ofNat ((l.atBatch k s).batchStart i) } l.table l.batchSize = _
  rw [batchStart_atBatch hk]
  rfl

end

/-- `l'` is `l` behind the batches of `statements`, over some sink. -/
structure HandedOver (l l' : Loader σ) (statements : List Sql.Statement) : Prop where
  eq_atBatch : l' = l.atBatch statements.length l'.sink
  batchStart_lt : l.batchStart statements.length < 2 ^ 64
  batchStatement : ∀ i (hi : i < statements.length), l.batchStatement i = .ok statements[i]

namespace HandedOver

variable {l l' l'' : Loader σ} {statements more : List Sql.Statement}

theorem nil (l : Loader σ) (s : σ) : HandedOver l (l.withSink s) [] where
  eq_atBatch := congrArg (withSink · s) l.atBatch_zero.symm
  batchStart_lt := by
    rw [List.length_nil, batchStart_zero]
    exact l.offset.toNat_lt
  batchStatement i hi := absurd hi (Nat.not_lt_zero i)

theorem append (h : HandedOver l l' statements) (h' : HandedOver l' l'' more) :
    HandedOver l l'' (statements ++ more) where
  eq_atBatch := by
    rw [h'.eq_atBatch, h.eq_atBatch, atBatch_atBatch h.batchStart_lt, List.length_append]
    rfl
  batchStart_lt := by
    have hlt := h'.batchStart_lt
    rwa [h.eq_atBatch, batchStart_atBatch h.batchStart_lt, ← List.length_append] at hlt
  batchStatement i hi := by
    by_cases hfront : i < statements.length
    · rw [List.getElem_append_left hfront]
      exact h.batchStatement i hfront
    · -- a batch of `l'`, counted from the start of `l`
      rw [List.length_append] at hi
      have hback := h'.batchStatement (i - statements.length) (by omega)
      rw [h.eq_atBatch, batchStatement_atBatch h.batchStart_lt, Nat.add_sub_cancel' (Nat.le_of_not_lt hfront)] at hback
      rw [List.getElem_append_right (Nat.le_of_not_lt hfront)]
      exact hback

/-- The batches handed over lie one behind the other, from the offset at the start on. -/
theorem exists_records (h : HandedOver l l' statements) :
    ∃ records : Nat → List Record,
      (∀ i (hi : i < statements.length), l.batchRecords i = .ok (records i) ∧
        Sql.Statement.ofRecords l.profile.verb l.table l.profile.columns (records i) = .ok statements[i]) ∧
      ((List.range statements.length).flatMap records).map (·.offset.toNat) =
        List.range' l.offset.toNat (statements.length * l.batchSize.toNat) := by
  have hrecords : ∀ i (hi : i < statements.length), l.batchRecords i = .ok ((l.batchRecords i).toOption.getD []) ∧
      Sql.Statement.ofRecords l.profile.verb l.table l.profile.columns ((l.batchRecords i).toOption.getD []) =
        .ok statements[i] := by
    intro i hi
    obtain ⟨records, hmade, hstatement⟩ := bind_eq_ok (h.batchStatement i hi)
    rw [hmade]
    exact ⟨rfl, hstatement⟩
  refine ⟨fun i => (l.batchRecords i).toOption.getD [], hrecords, ?_⟩
  have hrows : ∀ k ≤ statements.length, l.profile.Rows l.offset.toNat (k * l.batchSize.toNat)
      ((List.range k).flatMap fun i => (l.batchRecords i).toOption.getD []) := by
    intro k hk
    induction k with
    | zero =>
      rw [Nat.zero_mul]
      exact .nil _ _
    | succ k ih =>
      have hstart : l.batchStart k < 2 ^ 64 := Nat.lt_of_le_of_lt (l.batchStart_mono (by omega)) h.batchStart_lt
      have hlast := rows_of_batchRecords hstart (hrecords k hk).1
      rw [List.range_succ, List.flatMap_append, List.flatMap_singleton, Nat.succ_mul]
      exact (ih (by omega)).append hlast
  exact (hrows _ (Nat.le_refl _)).offsets

end HandedOver

/-! ### one call -/

section

variable [Sink σ] {l l' : Loader σ}

theorem Course.handedOver {elapsed : Duration} {n : Nat} {statements : List Sql.Statement}
    {answer : Except Aborted Metrics} (h : l.Course elapsed n statements answer l')
    (hlt : l.batchStart statements.length < 2 ^ 64) : HandedOver l l' statements where
  eq_atBatch := by
    cases h with
    | rejected target => exact l.atBatch_zero.symm
    | complete target passed all =>
      subst all
      rfl
    | exhausted target passed more left => rfl
    | refused target passed more checked made answer =>
      rw [List.length_append]
      rfl
  batchStart_lt := hlt
  batchStatement _ hi := h.batchStatement_getElem hi

theorem withSink_of_store {m : Metrics} {index : UInt64} {records : List Record}
    {o : Outcome σ (Except LoadError UInt64 × Metrics)} (h : l.store m index records = .ok o) :
    o.loader = l.withSink o.loader.sink := by
  cases records with
  | nil =>
    cases h
    rfl
  | cons first rest =>
    obtain ⟨statement, -, hsettle⟩ := bind_eq_ok h
    unfold settle at hsettle
    cases hanswer : (Sink.write l.sink statement).answer with
    | ok rows =>
      rw [hanswer] at hsettle
      obtain ⟨m', -, hsettled⟩ := bind_eq_ok hsettle
      cases hsettled
      rfl
    | error e =>
      rw [hanswer] at hsettle
      obtain ⟨m', -, hsettled⟩ := bind_eq_ok hsettle
      cases hsettled
      rfl

theorem loader_clear (l : Loader σ) : l.clear.loader = l.withSink (Sink.truncate l.sink l.table).sink := by
  unfold clear
  obtain ⟨answer, s, log⟩ := Sink.truncate l.sink l.table
  cases answer with
  | error e => rfl
  | ok => rfl

/-- All calls but runs leave everything but the sink as it was. -/
theorem withSink_of_perform {call : LoaderCall} (hcall : call.isRun = false) (h : l.perform call = .ok l') :
    l' = l.withSink l'.sink := by
  cases call with
  | run elapsed n => cases hcall
  | clear =>
    cases h
    rw [loader_clear]
    rfl
  | count =>
    cases h
    rfl
  | close =>
    cases h
    rfl
  | store m index records =>
    obtain ⟨o, hstore, rfl⟩ := map_eq_ok h
    exact withSink_of_store hstore

/-- No call traps but a `store`. -/
theorem trap_of_perform {call : LoaderCall} {t : Trap} (h : l.perform call = .error t) :
    ∃ m index records, call = .store m index records ∧ l.store m index records = .error t := by
  cases call with
  | run elapsed n =>
    obtain ⟨statements, o, hrun, -⟩ := exists_course l elapsed n
    rw [perform_run, hrun] at h
    cases h
  | clear => cases h
  | count => cases h
  | close => cases h
  | store m index records =>
    refine ⟨m, index, records, rfl, ?_⟩
    rw [perform_store] at h
    cases hstore : l.store m index records with
    | ok o =>
      rw [hstore] at h
      cases h
    | error t' =>
      rw [hstore] at h
      cases h
      rfl

/-- A record changes no call. -/
theorem perform_unrecorded (l : Loader (Recording σ)) (call : LoaderCall) :
    l.unrecorded.perform call = (l.perform call).map unrecorded := by
  cases call with
  | run elapsed n =>
    have hrun := run_mapSink Sink.carries_recording.writes l elapsed n
    change l.unrecorded.run elapsed n = _ at hrun
    rw [perform_run, perform_run, hrun]
    cases l.run elapsed n <;> rfl
  | clear => exact congrArg (fun o => Except.ok (Outcome.loader o)) (clear_mapSink Sink.carries_recording l)
  | count => exact congrArg (fun o => Except.ok (Outcome.loader o)) (countRows_mapSink Sink.carries_recording l)
  | close => exact congrArg (fun o => Except.ok (Outcome.loader o)) (close_mapSink Sink.carries_recording l)
  | store m index records =>
    have hstore := store_mapSink Sink.carries_recording.writes l m index records
    change l.unrecorded.store m index records = _ at hstore
    rw [perform_store, perform_store, hstore]
    cases l.store m index records <;> rfl

/-- One call, with the calls of the sink that it makes and the statements it hands over if it is a run. -/
theorem exists_perform {r : Loader (Recording σ)} {call : LoaderCall}
    (h : (l.withSink (⟨l.sink, #[]⟩ : Recording σ)).perform call = .ok r) :
    ∃ statements, HandedOver l r.unrecorded statements ∧
      ∀ history, runStatements ((call, r.sink.calls.toList) :: history) = statements ++ runStatements history := by
  by_cases hcall : call.isRun = true
  · cases call with
    | run elapsed n =>
      obtain ⟨statements, o, recorded, hrun, hcourse, hlt, hrecorded, rfl, hcalls⟩ := exists_recorded_course l elapsed n
      rw [perform_run, hrecorded] at h
      cases h
      refine ⟨statements, hcourse.handedOver hlt, fun history => ?_⟩
      rw [hcalls]
      exact runStatements_cons_run elapsed n statements history
    -- no other call is a run
    | clear => cases hcall
    | count => cases hcall
    | close => cases hcall
    | store => cases hcall
  · rw [Bool.not_eq_true] at hcall
    refine ⟨[], ?_, runStatements_cons_of_not_run hcall _⟩
    have hplain := perform_unrecorded (l.withSink (⟨l.sink, #[]⟩ : Recording σ)) call
    rw [h] at hplain
    rw [withSink_of_perform hcall hplain]
    exact .nil l _

end

/-! ### all calls -/

section

variable [Sink σ]

/-- The invariant of a history: what its runs handed over are the first batches of the loader, as far as its offset. -/
theorem exists_performAll (l : Loader σ) (calls : List LoaderCall) :
    (∃ history l', l.performAll calls = .ok (history, l') ∧ calls.foldlM perform l = .ok l' ∧
      history.map Prod.fst = calls ∧ HandedOver l l' (runStatements history)) ∨
    ∃ front m index records back history l' t, calls = front ++ .store m index records :: back ∧
      l.performAll front = .ok (history, l') ∧ l'.store m index records = .error t := by
  induction calls generalizing l with
  | nil => exact Or.inl ⟨[], l, rfl, rfl, rfl, .nil l l.sink⟩
  | cons call rest ih =>
    have hplain := perform_unrecorded (l.withSink (⟨l.sink, #[]⟩ : Recording σ)) call
    change l.perform call = _ at hplain
    cases hcall : (l.withSink (⟨l.sink, #[]⟩ : Recording σ)).perform call with
    | error t =>
      rw [hcall] at hplain
      obtain ⟨m, index, records, rfl, hstore⟩ := trap_of_perform hplain
      exact Or.inr ⟨[], m, index, records, rest, [], l, t, rfl, rfl, hstore⟩
    | ok r =>
      rw [hcall] at hplain
      obtain ⟨statements, hhanded, hstatements⟩ := exists_perform hcall
      rcases ih r.unrecorded with
        ⟨history, l', hall, hfold, hcalls, hrest⟩ | ⟨front, m, index, records, back, history, l', t, rfl, hfront, hstore⟩
      · refine Or.inl ⟨(call, r.sink.calls.toList) :: history, l', ?_, ?_, ?_, ?_⟩
        · simp only [performAll, hcall, hall, bind, Except.bind, pure, Except.pure]
        · rw [List.foldlM_cons, hplain]
          exact hfold
        · rw [List.map_cons, hcalls]
        · rw [hstatements]
          exact hhanded.append hrest
      · refine Or.inr ⟨call :: front, m, index, records, back, (call, r.sink.calls.toList) :: history, l', t, rfl, ?_,
          hstore⟩
        simp only [performAll, hcall, hfront, bind, Except.bind, pure, Except.pure]

/-- **No batch comes twice.** Any calls of a loader go through, unless a `store` among them traps. Their runs hand over the
batches that start at the loader's offset, one behind the other and each once, whether it is accepted or refused, and the
offset ends behind the last of them. All other calls leave the offset where it is. -/
theorem offsets_handed_out_once (l : Loader σ) (calls : List LoaderCall) :
    ((∃ history l' records, l.performAll calls = .ok (history, l') ∧ calls.foldlM perform l = .ok l' ∧
      history.map Prod.fst = calls ∧
      l'.offset.toNat = l.offset.toNat + (runStatements history).length * l.batchSize.toNat ∧
      (∀ j (hj : j < (runStatements history).length),
        l.generator.batchAt (UInt64.ofNat (l.offset.toNat + j * l.batchSize.toNat)) l.batchSize = .ok (records j) ∧
        Sql.Statement.ofRecords l.profile.verb l.table l.profile.columns (records j) = .ok (runStatements history)[j]) ∧
      ((List.range (runStatements history).length).flatMap records).map (·.offset.toNat) =
        List.range' l.offset.toNat ((runStatements history).length * l.batchSize.toNat)) ∨
    ∃ front m index records back history l' t, calls = front ++ .store m index records :: back ∧
      l.performAll front = .ok (history, l') ∧ l'.store m index records = .error t) ∧
    ∀ (call : LoaderCall) (l₁ l₂ : Loader σ), call.isRun = false → l₁.perform call = .ok l₂ → l₂.offset = l₁.offset := by
  refine ⟨?_, fun call l₁ l₂ hcall hperform => ?_⟩
  · rcases exists_performAll l calls with ⟨history, l', hall, hfold, hcalls, hhanded⟩ | htrap
    · obtain ⟨records, hrecords, hoffsets⟩ := hhanded.exists_records
      refine Or.inl ⟨history, l', records, hall, hfold, hcalls, ?_, hrecords, hoffsets⟩
      rw [hhanded.eq_atBatch, offset_atBatch hhanded.batchStart_lt]
      rfl
    · exact Or.inr htrap
  · rw [withSink_of_perform hcall hperform]
    rfl

end

end Loader

end RowLoader
