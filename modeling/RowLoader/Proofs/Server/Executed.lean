import RowLoader.Proofs.Loader.CallOrder
import RowLoader.Proofs.Loader.Resume
import RowLoader.Proofs.Server.Transaction

/-!
# Statements sent by a load

Which statements a load sends to its server for execution. Only writes send any, and one that is accepted has sent its own. A
transaction that cannot be started sends none, so the last statement handed over may be missing.

* `Server.executedIn`: the statements among some exchanges;
* `Server.Session.executed_write`: what one write sends;
* `Loader.Course.exists_executed`, `Loader.exists_load_executed`: what a run sends, and a whole load.
-/

namespace RowLoader

variable {σ : Type}

namespace Server

def Request.statement? : Request → Option Sql.Statement
  | .execute statement => some statement
  | _ => none

/-- The statements sent for execution, in order, whatever came back. -/
def executedIn (exchanges : List Exchange) : List Sql.Statement := exchanges.filterMap fun x => x.1.statement?

theorem executedIn_append (front back : List Exchange) : executedIn (front ++ back) = executedIn front ++ executedIn back :=
  List.filterMap_append

theorem executedIn_concat_of_none {r : Request} (h : r.statement? = none) (exchanges : List Exchange) (a : Answer) :
    executedIn (exchanges ++ [(r, a)]) = executedIn exchanges := by
  simp [executedIn, h]

theorem Opening.executedIn_eq_nil {link : Link} {front : List Exchange} {answer : Except ClientError Unit}
    (h : Opening link front answer) : executedIn front = [] := by
  cases h <;> rfl

/-- A transaction sends its statement, unless it is not started. -/
theorem Transaction.executedIn_eq {statement : Sql.Statement} {exchanges : List Exchange} {answer : Except ClientError Unit}
    {link : Link} (h : Transaction statement exchanges answer link) :
    executedIn exchanges = [statement] ∨ executedIn exchanges = [] ∧ ∃ e, answer = .error e := by
  cases h with
  | unstarted failed => exact Or.inr ⟨rfl, _, rfl⟩
  | committed => exact Or.inl rfl
  | rolledBack => exact Or.inl rfl
  | lost gone failed => exact Or.inl rfl
  | uncommitted failed => exact Or.inl rfl

namespace Session

variable [Server σ]

/-! ### requests without a statement -/

theorem executed_exchange {r : Request} (h : r.statement? = none) (d : Dialogue σ) (link : Link) :
    executedIn (exchange d link r).2.1.exchanges = executedIn d.exchanges := by
  by_cases hbroken : link = .broken
  · rw [hbroken, exchange_broken]
  · rw [exchange_of_ne_broken d hbroken, send_dialogue]
    exact executedIn_concat_of_none h _ _

theorem executed_cleanUp (d : Dialogue σ) (link : Link) :
    executedIn (cleanUp d link).2.1.exchanges = executedIn d.exchanges := by
  cases link with
  | idle => rfl
  | broken => rfl
  | abandoned => exact executed_exchange rfl d .idle

theorem executed_request {r : Request} (h : r.statement? = none) (d : Dialogue σ) (link : Link) :
    executedIn (request d link r).2.1.exchanges = executedIn d.exchanges := by
  have hcleaned := executed_cleanUp d link
  unfold request
  generalize cleanUp d link = cleaned at hcleaned ⊢
  obtain ⟨answer, d', link'⟩ := cleaned
  cases answer with
  | error e => exact hcleaned
  | ok => exact (executed_exchange h d' link').trans hcleaned

variable (s : Session (Dialogue σ)) (table : String)

theorem executed_truncate : executedIn (Sink.truncate s table).sink.server.exchanges = executedIn s.server.exchanges := by
  obtain ⟨d, link⟩ := s
  cases link with
  | none => rfl
  | some link => exact executed_request rfl d link

theorem executed_count : executedIn (Sink.count s table).sink.server.exchanges = executedIn s.server.exchanges := by
  obtain ⟨d, link⟩ := s
  cases link with
  | none => rfl
  | some link => exact executed_request rfl d link

theorem executed_close : executedIn (Sink.close s).sink.server.exchanges = executedIn s.server.exchanges := by
  obtain ⟨d, link⟩ := s
  cases link with
  | none => rfl
  | some link =>
    have hcleaned := executed_cleanUp d link
    cases link with
    | broken => rfl
    | idle => exact executedIn_concat_of_none rfl d.exchanges _
    | abandoned =>
      show executedIn (close (⟨d, some .abandoned⟩ : Session (Dialogue σ))).sink.server.exchanges = _
      unfold close
      simp only
      generalize cleanUp d .abandoned = cleaned at hcleaned ⊢
      obtain ⟨answer, d', link'⟩ := cleaned
      cases answer with
      | error e => exact hcleaned
      | ok => exact (executedIn_concat_of_none rfl d'.exchanges _).trans hcleaned

/-- Neither does connecting, with or without success. -/
theorem executed_establish (d : Dialogue σ) (access : Connection.Access) (address : String) :
    executedIn (establish d access address).2.1.exchanges = executedIn d.exchanges ∧
      ∀ s, (establish d access address).1 = .ok s → executedIn s.server.exchanges = executedIn d.exchanges := by
  have hsent : executedIn (exchange d .idle (.connect access.login)).2.1.exchanges = executedIn d.exchanges :=
    executed_exchange rfl d .idle
  unfold establish
  cases access.endpoint.fault? with
  | some fault =>
    refine ⟨rfl, ?_⟩
    rintro s ⟨⟩
  | none =>
    simp only
    generalize exchange d .idle (.connect access.login) = connected at hsent ⊢
    obtain ⟨answer, d', link⟩ := connected
    cases answer with
    | error e =>
      refine ⟨hsent, ?_⟩
      rintro s ⟨⟩
    | ok value =>
      refine ⟨hsent, ?_⟩
      rintro s ⟨⟩
      exact hsent

/-! ### writes -/

/-- A write sends its statement, unless it fails before. -/
theorem executed_write (statement : Sql.Statement) :
    executedIn (Sink.write s statement).sink.server.exchanges = executedIn s.server.exchanges ++ [statement] ∨
    executedIn (Sink.write s statement).sink.server.exchanges = executedIn s.server.exchanges ∧
      ∃ e, (Sink.write s statement).answer = .error e := by
  obtain ⟨d, link⟩ := s
  cases link with
  | none => exact Or.inr ⟨rfl, _, rfl⟩
  | some link =>
    rw [write_open]
    rcases transact_ways d link statement with ⟨front, e, hopening, hanswer, hsaid⟩ | ⟨front, part, hopening, hways, hsaid⟩
    · refine Or.inr ⟨?_, .client e, ?_⟩
      · show executedIn (transact d link statement).2.1.exchanges = _
        rw [hsaid, executedIn_append, hopening.executedIn_eq_nil, List.append_nil]
      · rw [hanswer]
        rfl
    · have hsent : executedIn (transact d link statement).2.1.exchanges = executedIn d.exchanges ++ executedIn part := by
        rw [hsaid, executedIn_append, executedIn_append, hopening.executedIn_eq_nil, List.nil_append]
      rcases hways.executedIn_eq with hpart | ⟨hpart, e, hanswer⟩
      · rw [hpart] at hsent
        exact Or.inl hsent
      · rw [hpart, List.append_nil] at hsent
        refine Or.inr ⟨hsent, .client e, ?_⟩
        rw [hanswer]
        rfl

end Session

end Server

open Server

namespace LoadPlan

/-- The statement of batch `i`, whatever it is sent to. -/
def statementAt (plan : LoadPlan) (createdAt : Timestamp) (i : Nat) : Except Trap Sql.Statement :=
  (Loader.ofPlan plan createdAt ()).batchStatement i

/-! ### the stages of a load -/

variable [Server σ] (plan : LoadPlan)

theorem executed_clearing (s : Session (Dialogue σ)) :
    executedIn (plan.clearing s).2.server.exchanges = executedIn s.server.exchanges := by
  unfold clearing
  split
  · exact Session.executed_truncate s plan.table
  · rfl

theorem executed_lastSink {cleared : Except LoadError Unit × Session (Dialogue σ)}
    (h : cleared.1 = .ok ()) (ran : Outcome (Session (Dialogue σ)) (Except Aborted Metrics)) :
    executedIn (plan.lastSink cleared ran).server.exchanges = executedIn ran.loader.sink.server.exchanges := by
  unfold lastSink
  rw [h]
  show executedIn (if plan.truncate && ran.answer.isOk then _ else _ : Session (Dialogue σ)).server.exchanges = _
  split
  · exact Session.executed_count ran.loader.sink plan.table
  · rfl

end LoadPlan

namespace Loader

variable [Server σ] {l l' : Loader (Session (Dialogue σ))} {statements : List Sql.Statement}

/-! ### runs -/

/-- The loop invariant: what passed was sent. -/
theorem Passed.executed (h : l.Passed statements) :
    executedIn (Sink.feed l.sink statements).server.exchanges = executedIn l.sink.server.exchanges ++ statements := by
  induction h with
  | nil => exact (List.append_nil _).symm
  | concat front checked made accepted ih =>
    rw [Sink.feed_concat, ← List.append_assoc, ← ih]
    refine (Session.executed_write _ _).resolve_right ?_
    rintro ⟨-, e, hrefused⟩
    cases accepted.symm.trans hrefused

/-- A run sends the statements that it hands over, but for the last one where that is refused. -/
theorem Course.exists_executed {elapsed : Duration} {n : Nat} {answer : Except Aborted Metrics}
    (h : l.Course elapsed n statements answer l') :
    ∃ sent, executedIn l'.sink.server.exchanges = executedIn l.sink.server.exchanges ++ sent ∧ sent <+: statements ∧
      ∀ m, answer = .ok m → sent = statements := by
  cases h with
  | rejected target => exact ⟨[], (List.append_nil _).symm, List.prefix_rfl, fun _ _ => rfl⟩
  | complete target passed all => exact ⟨_, passed.executed, List.prefix_rfl, fun _ _ => rfl⟩
  | exhausted target passed more left => exact ⟨_, passed.executed, List.prefix_rfl, fun _ _ => rfl⟩
  | @refused statements statement e target passed more checked made answer =>
    have hfeed : executedIn (Sink.feed l.sink (statements ++ [statement])).server.exchanges =
        executedIn l.sink.server.exchanges ++ (statements ++ [statement]) ∨
      executedIn (Sink.feed l.sink (statements ++ [statement])).server.exchanges =
        executedIn l.sink.server.exchanges ++ statements := by
      rw [Sink.feed_concat, ← List.append_assoc, ← passed.executed]
      exact (Session.executed_write _ statement).imp_right And.left
    rcases hfeed with hsent | hsent
    · exact ⟨_, hsent, List.prefix_rfl, fun _ _ => rfl⟩
    · refine ⟨_, hsent, List.prefix_append _ _, ?_⟩
      rintro m ⟨⟩

/-! ### loads -/

/-- **What a load sends.** Every load sends the statements of its first batches in order, and those of all batches if it gets
through. -/
theorem exists_load_executed (plan : LoadPlan) (createdAt : Timestamp) (s : Session (Dialogue σ)) (elapsed : Duration) :
    ∃ o sent, (ofPlan plan createdAt s).loadThenClose plan elapsed = .ok o ∧
      executedIn o.loader.sink.server.exchanges = executedIn s.server.exchanges ++ sent ∧
      (∀ i (hi : i < sent.length), plan.statementAt createdAt i = .ok sent[i]) ∧
      ∀ m, o.answer = .ok m → sent.length = plan.batchCount.toNat := by
  obtain ⟨statements, ran, hrun, hcourse, -⟩ :=
    exists_course (ofPlan plan createdAt (plan.clearing s).2) elapsed plan.batchCount
  obtain ⟨o, hload, hanswer, hsink⟩ := exists_load_ofPlan (rfl : plan.clearing s = plan.clearing s) hrun
  have hcleared := plan.executed_clearing s
  cases hclearing : (plan.clearing s).1 with
  | error e =>
    refine ⟨o, [], hload, ?_, by simp, ?_⟩
    · rw [hsink, Session.executed_close, List.append_nil, ← hcleared]
      unfold LoadPlan.lastSink
      rw [hclearing]
      rfl
    · intro m hm
      rw [hanswer, LoadPlan.answer_eq_ok_iff, hclearing] at hm
      cases hm.1
  | ok =>
    obtain ⟨sent, hsent, hprefix, hall⟩ := hcourse.exists_executed
    refine ⟨o, sent, hload, ?_, fun i hi => ?_, fun m hm => ?_⟩
    · rw [hsink, Session.executed_close, plan.executed_lastSink hclearing, hsent]
      exact congrArg (· ++ sent) hcleared
    · have hstatement := hcourse.batchStatement_getElem (Nat.lt_of_lt_of_le hi hprefix.length_le)
      rw [← hprefix.getElem hi] at hstatement
      exact hstatement
    · rw [hanswer, LoadPlan.answer_eq_ok_iff] at hm
      have hran := hm.2.1
      rw [hran] at hcourse
      rw [hall m hran]
      exact hcourse.complete_of_ok.2.2.1

end Loader

end RowLoader
