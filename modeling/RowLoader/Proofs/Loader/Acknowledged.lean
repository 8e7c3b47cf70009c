import RowLoader.Proofs.Loader.Map
import RowLoader.Proofs.Loader.Validated
import RowLoader.Proofs.Server.Transaction

/-!
# Runs over a session

What a run says to its server, and what its counters tell of the answers.

* `Server.Conversation`: committed transactions one after the other, and behind them at most one that failed;
* `Loader.Ending`: the reasons for which a run ends, each with what was the case;
* `Loader.Tally`: an answer that tells of a conversation;
* `Loader.run_counts_acknowledged`: every run over an open session is such a conversation, one transaction for each batch,
  and its counters tell of it.
-/

namespace RowLoader

variable {σ τ : Type}

/-! ### conversations -/

namespace Server

/-- Each statement was committed, in a part of its own. -/
abbrev CommittedIn (statements : List Sql.Statement) (parts : List (List Exchange)) : Prop :=
  List.Forall₂ (fun statement part => Transaction statement part (.ok ()) .idle) statements parts

/-- The exchanges of the statements that were committed, and of the one that failed, with its error. What opens the link comes
first, if anything is to be written. -/
inductive Conversation (link : Link) :
    List Sql.Statement → Option (Sql.Statement × ClientError) → List Exchange → Prop where
  | silent : Conversation link [] none []
  | committed {front : List Exchange} {statements : List Sql.Statement} {parts : List (List Exchange)}
      (opening : Opening link front (.ok ())) (nonempty : statements ≠ [])
      (all : CommittedIn statements parts) :
      Conversation link statements none (front ++ parts.flatten)
  /-- the transaction behind those committed fails -/
  | failed {front tail : List Exchange} {statements : List Sql.Statement} {parts : List (List Exchange)}
      {statement : Sql.Statement} {e : ClientError} {link' : Link} (opening : Opening link front (.ok ()))
      (all : CommittedIn statements parts)
      (last : Transaction statement tail (.error e) link') :
      Conversation link statements (some (statement, e)) (front ++ parts.flatten ++ tail)
  /-- no transaction can be started -/
  | unopened {front : List Exchange} {statement : Sql.Statement} {e : ClientError} (opening : Opening link front (.error e)) :
      Conversation link [] (some (statement, e)) front

/-! ### no `COMMIT` behind a refusal -/

/-- `y` may come behind `x`: a `COMMIT` does not if `x` is a statement that failed. -/
def Exchange.MayPrecede (x y : Exchange) : Prop :=
  ∀ statement e, x.1 = .execute statement → x.2.result = .error e → y.1 ≠ .query Session.commitText

/-- No statement, or one that was accepted. -/
def Exchange.Accepted (x : Exchange) : Prop := ∀ statement e, x.1 = .execute statement → x.2.result ≠ .error e

theorem Exchange.Accepted.mayPrecede {x : Exchange} (h : x.Accepted) (y : Exchange) : x.MayPrecede y :=
  fun statement e hexecute hfailed => absurd hfailed (h statement e hexecute)

theorem Exchange.accepted_query (text : String) (a : Answer) : Exchange.Accepted (.query text, a) := by
  intro statement e hexecute
  cases hexecute

theorem Exchange.accepted_done (r : Request) (v : Option UInt64) : Exchange.Accepted (r, .done v) := by
  intro statement e _ hfailed
  cases hfailed

theorem Opening.accepted {link : Link} {front : List Exchange} {answer : Except ClientError Unit}
    (h : Opening link front answer) : ∀ x ∈ front, x.Accepted := by
  cases h <;> simp [Exchange.accepted_query]

theorem Transaction.accepted {statement : Sql.Statement} {exchanges : List Exchange} {link : Link}
    (h : Transaction statement exchanges (.ok ()) link) : ∀ x ∈ exchanges, x.Accepted := by
  cases h
  simp [Exchange.accepted_done]

theorem accepted_of_committed {statements : List Sql.Statement} {parts : List (List Exchange)}
    (h : CommittedIn statements parts) :
    ∀ x ∈ parts.flatten, x.Accepted := by
  induction h with
  | nil => simp
  | cons first _ ih =>
    intro x hx
    rw [List.flatten_cons, List.mem_append] at hx
    exact hx.elim (first.accepted x) (ih x)

theorem accepted_append {front back : List Exchange} (hfront : ∀ x ∈ front, x.Accepted) (hback : ∀ x ∈ back, x.Accepted) :
    ∀ x ∈ front ++ back, x.Accepted := by
  intro x hx
  exact (List.mem_append.1 hx).elim (hfront x) (hback x)

theorem pairwise_of_accepted {exchanges : List Exchange} (h : ∀ x ∈ exchanges, x.Accepted) :
    exchanges.Pairwise Exchange.MayPrecede :=
  List.pairwise_of_forall_mem_list fun x hx y _ => (h x hx).mayPrecede y

/-- Within a transaction, a refused statement is followed by a `ROLLBACK` at most. -/
theorem Transaction.pairwise {statement : Sql.Statement} {exchanges : List Exchange} {answer : Except ClientError Unit}
    {link : Link} (h : Transaction statement exchanges answer link) : exchanges.Pairwise Exchange.MayPrecede := by
  have hrollback : Session.rollbackText ≠ Session.commitText := by decide
  cases h with
  | committed => exact pairwise_of_accepted (by simp [Exchange.accepted_done])
  | unstarted failed => exact List.pairwise_singleton _ _
  | rolledBack =>
    have hlast : Exchange.MayPrecede (.execute statement, .refused ‹_›) (.query Session.rollbackText, ‹_›) := by
      intro _ _ _ _ hcommit
      exact hrollback (Request.query.inj hcommit)
    simp [(Exchange.accepted_done _ _).mayPrecede, hlast]
  | lost gone failed => simp [(Exchange.accepted_done _ _).mayPrecede]
  | uncommitted failed => simp [(Exchange.accepted_done _ _).mayPrecede]

theorem Conversation.pairwise {link : Link} {statements : List Sql.Statement}
    {failed : Option (Sql.Statement × ClientError)} {exchanges : List Exchange}
    (h : Conversation link statements failed exchanges) : exchanges.Pairwise Exchange.MayPrecede := by
  cases h with
  | silent => exact List.Pairwise.nil
  | committed opening nonempty all =>
    exact pairwise_of_accepted (accepted_append opening.accepted (accepted_of_committed all))
  | failed opening all last =>
    -- only the last transaction holds a statement that was not accepted
    have hfront := accepted_append opening.accepted (accepted_of_committed all)
    rw [List.pairwise_append]
    exact ⟨pairwise_of_accepted hfront, last.pairwise, fun x hx y _ => (hfront x hx).mayPrecede y⟩
  | unopened opening => exact pairwise_of_accepted opening.accepted

end Server

namespace Loader

open Server

/-! ### counters -/

/-- Why a run of `n` batches ends behind the batches of `statements`, with the statement that failed, if one did. An answer is
given only where what it says is the case. -/
inductive Ending (l : Loader σ) (n : Nat) (statements : List Sql.Statement) :
    Option (Sql.Statement × ClientError) → Except Aborted Metrics → Prop where
  /-- the target is refused, so nothing was committed -/
  | rejected {m : Metrics} {r : Refusal} (target : checkTarget l.profile l.table l.batchSize = .error r)
      (idle : statements = []) : Ending l n statements none (.error ⟨m, .config r⟩)
  /-- these were all batches -/
  | complete {m : Metrics} (target : checkTarget l.profile l.table l.batchSize = .ok ()) (all : statements.length = n) :
      Ending l n statements none (.ok m)
  /-- the next batch leaves the key space -/
  | exhausted {m : Metrics} {e : KeySpaceOverflow} (target : checkTarget l.profile l.table l.batchSize = .ok ())
      (more : statements.length < n) (left : l.batchCheck statements.length = .error e) :
      Ending l n statements none (.error ⟨m, .keySpace e⟩)
  /-- the next batch lies in the key space, and its statement failed -/
  | refused {m : Metrics} {statement : Sql.Statement} {e : ClientError}
      (target : checkTarget l.profile l.table l.batchSize = .ok ()) (more : statements.length < n)
      (checked : l.batchCheck statements.length = .ok ()) (made : l.batchStatement statements.length = .ok statement) :
      Ending l n statements (some (statement, e))
        (.error ⟨m, .batch (UInt64.ofNat statements.length) (UInt64.ofNat (l.batchStart statements.length)) l.batchSize
          (.client e)⟩)

/-- The answer of a run of `n` batches tells of a conversation: as written count the rows of the committed statements, as
failed those of the statement that failed, and the run ended for a reason. -/
structure Tally (l : Loader σ) (n : Nat) (statements : List Sql.Statement) (failed : Option (Sql.Statement × ClientError))
    (answer : Except Aborted Metrics) : Prop where
  in_order : ∀ i (hi : i < statements.length), l.batchStatement i = .ok statements[i]
  written : (endMetrics answer).written.toNat = (statements.map (·.rows)).sum
  none_failed : failed = none → (endMetrics answer).failed = 0
  one_failed : ∀ statement e, failed = some (statement, e) → (endMetrics answer).failed.toNat = statement.rows
  ending : l.Ending n statements failed answer

/-- It does not matter what the batches are written to. -/
theorem Ending.mapSink {l : Loader σ} {n : Nat} {statements : List Sql.Statement}
    {failed : Option (Sql.Statement × ClientError)} {answer : Except Aborted Metrics} (f : σ → τ)
    (h : l.Ending n statements failed answer) : (l.mapSink f).Ending n statements failed answer := by
  cases h with
  | rejected target idle => exact .rejected target idle
  | complete target all => exact .complete target all
  | exhausted target more left => exact .exhausted target more left
  | refused target more checked made => exact .refused target more checked made

theorem Tally.mapSink {l : Loader σ} {n : Nat} {statements : List Sql.Statement}
    {failed : Option (Sql.Statement × ClientError)} {answer : Except Aborted Metrics} (f : σ → τ)
    (h : l.Tally n statements failed answer) : (l.mapSink f).Tally n statements failed answer :=
  ⟨h.in_order, h.written, h.none_failed, h.one_failed, h.ending.mapSink f⟩

/-- Statements of one size hold so many rows for each. -/
theorem sum_rows {statements : List Sql.Statement} {size : Nat} (h : ∀ statement ∈ statements, statement.rows = size) :
    (statements.map (·.rows)).sum = statements.length * size := by
  rw [List.map_congr_left h, List.map_const', List.sum_replicate_nat]

/-! ### what a session said -/

/-- The session committed `statements` since its link was `link`, and nothing else. -/
def Committed (link : Link) (statements : List Sql.Statement) (s : Session (Dialogue σ)) : Prop :=
  (statements = [] ∧ s.link = some link ∧ s.server.exchanges = []) ∨
  (statements ≠ [] ∧ s.link = some .idle ∧ ∃ front parts, Opening link front (.ok ()) ∧ CommittedIn statements parts ∧
    s.server.exchanges = front ++ parts.flatten)

namespace Committed

variable {link link' : Link} {statements : List Sql.Statement} {s : Session (Dialogue σ)}

theorem conversation (h : Committed link statements s) : Conversation link statements none s.server.exchanges := by
  rcases h with ⟨rfl, -, hsilent⟩ | ⟨hne, -, front, parts, hopening, hall, hsaid⟩
  · rw [hsilent]
    exact .silent
  · rw [hsaid]
    exact .committed hopening hne hall

/-- What opens the next transaction opens the first one, or is nothing. -/
theorem opening (h : Committed link statements s) (hlink : s.link = some link') {front' : List Exchange}
    (hopening' : Opening link' front' (.ok ())) :
    ∃ front parts, Opening link front (.ok ()) ∧ CommittedIn statements parts ∧
      s.server.exchanges ++ front' = front ++ parts.flatten := by
  rcases h with ⟨rfl, hstart, hsilent⟩ | ⟨-, hidle, front, parts, hopening, hall, hsaid⟩
  · cases hstart.symm.trans hlink
    refine ⟨front', [], hopening', .nil, ?_⟩
    simp [hsilent]
  · cases hidle.symm.trans hlink
    obtain ⟨rfl, -⟩ := opening_idle_iff.1 hopening'
    exact ⟨front, parts, hopening, hall, (List.append_nil _).trans hsaid⟩

theorem exists_link (h : Committed link statements s) : ∃ d link', s = ⟨d, some link'⟩ := by
  obtain ⟨d, link''⟩ := s
  rcases h with ⟨-, rfl, -⟩ | ⟨-, rfl, -⟩
  · exact ⟨d, link, rfl⟩
  · exact ⟨d, .idle, rfl⟩

variable [Server σ]

theorem write_accepted (h : Committed link statements s) {statement : Sql.Statement} {rows : UInt64}
    (haccepted : (Sink.write s statement).answer = .ok rows) :
    Committed link (statements ++ [statement]) (Sink.write s statement).sink := by
  obtain ⟨d, link', rfl⟩ := h.exists_link
  obtain ⟨front', part, hopening', hpart, hidle, hsaid⟩ := Session.write_accepted haccepted
  obtain ⟨front, parts, hopening, hall, hfront⟩ := h.opening rfl hopening'
  refine Or.inr ⟨by simp, hidle, front, parts ++ [part], hopening, ?_, ?_⟩
  · exact List.rel_append hall (.cons hpart .nil)
  · rw [hsaid, ← List.append_assoc, hfront]
    simp

theorem write_refused (h : Committed link statements s) {statement : Sql.Statement} {cause : LoadError}
    (hrefused : (Sink.write s statement).answer = .error cause) :
    ∃ e, cause = .client e ∧
      Conversation link statements (some (statement, e)) (Sink.write s statement).sink.server.exchanges := by
  obtain ⟨d, link', rfl⟩ := h.exists_link
  obtain ⟨e, rfl, hways⟩ := Session.write_refused hrefused
  refine ⟨e, rfl, ?_⟩
  rcases hways with ⟨front', hopening', hsaid⟩ | ⟨front', part, link'', hopening', hpart, -, hsaid⟩
  · rw [hsaid]
    rcases h with ⟨rfl, hstart, hsilent⟩ | ⟨-, hidle, -⟩
    · cases hstart
      rw [show d.exchanges = [] from hsilent]
      exact .unopened hopening'
    · -- an idle link can be opened
      cases hidle
      cases (opening_idle_iff.1 hopening').2
  · obtain ⟨front, parts, hopening, hall, hfront⟩ := h.opening rfl hopening'
    rw [hsaid, ← List.append_assoc, show d.exchanges ++ front' = _ from hfront]
    exact .failed hopening hall hpart

end Committed

/-! ### runs -/

section

variable [Server σ] {l l' : Loader (Session (Dialogue σ))} {server : σ} {link : Link} {statements : List Sql.Statement}

/-- The loop invariant: what passed was committed. -/
theorem Passed.committed (hsink : l.sink = ⟨⟨server, []⟩, some link⟩) (h : l.Passed statements) :
    Committed link statements (Sink.feed l.sink statements) := by
  induction h with
  | nil =>
    rw [hsink]
    exact Or.inl ⟨rfl, rfl, rfl⟩
  | concat front checked made accepted ih =>
    rw [Sink.feed_concat]
    exact ih.write_accepted accepted

theorem Passed.written (target : checkTarget l.profile l.table l.batchSize = .ok ()) (h : l.Passed statements)
    (hrows : ∀ statement ∈ statements, statement.rows = l.batchSize.toNat) (elapsed : Duration) :
    (l.counters statements.length elapsed).written.toNat = (statements.map (·.rows)).sum := by
  obtain ⟨hwritten, -⟩ := toNat_counters (batchSize_pos target) h.batchStart_lt elapsed
  rw [hwritten, sum_rows hrows]

/-- A run is a conversation, and its counters tell of it. -/
theorem Course.exists_conversation {elapsed : Duration} {n : Nat} {answer : Except Aborted Metrics}
    (hsink : l.sink = ⟨⟨server, []⟩, some link⟩) (h : l.Course elapsed n statements answer l') :
    ∃ committed failed, Conversation link committed failed l'.sink.server.exchanges ∧ l.Tally n committed failed answer := by
  have hrows : ∀ statement ∈ statements, statement.rows = l.batchSize.toNat := fun statement hmem =>
    (h.shape_of_mem hmem).1
  cases h with
  | rejected target =>
    refine ⟨[], none, ?_, ?_⟩
    · rw [hsink]
      exact .silent
    · exact ⟨by simp, rfl, fun _ => rfl, by simp, .rejected target rfl⟩
  | complete target passed all =>
    refine ⟨statements, none, (passed.committed hsink).conversation, ?_⟩
    subst all
    exact ⟨fun i hi => passed.batchStatement_getElem hi, passed.written target hrows elapsed, fun _ => rfl, by simp,
      .complete target rfl⟩
  | exhausted target passed more left =>
    refine ⟨statements, none, (passed.committed hsink).conversation, ?_⟩
    exact ⟨fun i hi => passed.batchStatement_getElem hi, passed.written target hrows elapsed, fun _ => rfl, by simp,
      .exhausted target more left⟩
  | refused target passed more checked made answer =>
    rename_i statements statement cause
    obtain ⟨e, rfl, hconversation⟩ := (passed.committed hsink).write_refused answer
    rw [← Sink.feed_concat] at hconversation
    refine ⟨statements, some (statement, e), hconversation, ?_⟩
    refine ⟨fun i hi => passed.batchStatement_getElem hi, passed.written target ?_ elapsed, by simp, ?_,
      .refused target more checked made⟩
    · exact fun statement hmem => hrows statement (List.mem_append_left _ hmem)
    · intro last e' hlast
      cases hlast
      exact (hrows statement (List.mem_append_right _ (List.mem_singleton_self _))).symm

end

/-- **Reported rows are acknowledged rows.** A run over an open session, whatever its server answers, ends, and what it says is
a conversation: one committed transaction for each batch in order, and at most one behind them that failed. No `COMMIT` comes
behind a refused statement. As written count exactly the rows that were committed, as failed those of the batch that failed,
and that batch's error is the answer of the step at which it failed. Without such a failure, all batches were committed, or the
next one leaves the key space, or the target is refused. -/
theorem run_counts_acknowledged [Server σ] (plan : LoadPlan) (createdAt : Timestamp) (server : σ) (link : Link)
    (elapsed : Duration) (n : UInt64) :
    ∃ (committed : List Sql.Statement) (failed : Option (Sql.Statement × ClientError))
      (o : Outcome (Session σ) (Except Aborted Metrics)) (r : Outcome (Session (Dialogue σ)) (Except Aborted Metrics)),
      (ofPlan plan createdAt (⟨server, some link⟩ : Session σ)).run elapsed n = .ok o ∧
      (ofPlan plan createdAt (⟨⟨server, []⟩, some link⟩ : Session (Dialogue σ))).run elapsed n = .ok r ∧
      r.mapSink (Session.mapServer Dialogue.server) = o ∧
      Conversation link committed failed r.loader.sink.server.exchanges ∧
      r.loader.sink.server.exchanges.Pairwise Exchange.MayPrecede ∧
      (ofPlan plan createdAt (⟨server, some link⟩ : Session σ)).Tally n.toNat committed failed o.answer := by
  obtain ⟨statements, r, hrun, hcourse, -⟩ :=
    exists_course (ofPlan plan createdAt (⟨⟨server, []⟩, some link⟩ : Session (Dialogue σ))) elapsed n
  have hplain := run_mapSink (Session.carriesWrites_mapServer carries_dialogue)
    (ofPlan plan createdAt (⟨⟨server, []⟩, some link⟩ : Session (Dialogue σ))) elapsed n
  rw [hrun] at hplain
  obtain ⟨committed, failed, hconversation, htally⟩ := hcourse.exists_conversation rfl
  exact ⟨committed, failed, r.mapSink (Session.mapServer Dialogue.server), r, hplain, hrun, rfl, hconversation,
    hconversation.pairwise, htally.mapSink (Session.mapServer Dialogue.server)⟩

end Loader

end RowLoader
