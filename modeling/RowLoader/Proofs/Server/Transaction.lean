import RowLoader.Proofs.Server.Dialogue

/-!
# Transactions on the wire

What a session says to its server to write one statement, and what it makes of the answers, for a server that answers as it
likes.

* `Server.Transaction`: the ways a transaction can go, as the exchanges it consists of;
* `Server.Opening`: what goes in front of one over a link that is not idle;
* `Server.Session.transact_ways`: every transaction goes one of these ways;
* `Server.Session.write_accepted`, `Server.Session.write_refused`: what was said for a write, told from its answer.
-/

namespace RowLoader.Server

variable {σ : Type}

/-! ### answers -/

namespace Answer

/-- What the client makes of an answer. -/
def result : Answer → Except ClientError (Option UInt64)
  | done value => .ok value
  | refused e => .error (.refused e)
  | dropped => .error .dropped
  | unreachable => .error .unreachable

/-- The link behind an answer: as it was, unless the connection is gone. -/
def link (before : Link) : Answer → Link
  | done _ | refused _ => before
  | dropped | unreachable => .broken

/-- The link behind the answer to a `COMMIT` or `ROLLBACK`: a transaction that does not end is left open. -/
def settled : Answer → Link
  | done _ => .idle
  | refused _ => .abandoned
  | dropped | unreachable => .broken

theorem eq_done_of_result {a : Answer} {v : Option UInt64} (h : a.result = .ok v) : a = .done v := by
  cases a <;> cases h
  rfl

/-- Over a connection that is still there, an answer that fails is a refusal. -/
theorem eq_refused_of_result {a : Answer} {e : ClientError} (h : a.result = .error e) (hlink : a.link .idle ≠ .broken) :
    ∃ f, a = .refused f ∧ e = .refused f := by
  cases a with
  | done v => cases h
  | refused f =>
    cases h
    exact ⟨f, rfl, rfl⟩
  | dropped => exact absurd rfl hlink
  | unreachable => exact absurd rfl hlink

end Answer

namespace Session

section

variable [Server σ] {link : Link} (server : σ)

theorem exchange_of_ne_broken (h : link ≠ .broken) (r : Request) : exchange server link r =
    ((Server.send server r).1.result, (Server.send server r).2, (Server.send server r).1.link link) := by
  unfold exchange
  rw [if_neg h]
  obtain ⟨answer, server'⟩ := Server.send server r
  cases answer <;> rfl

theorem commit_idle : commit server .idle =
    ((Server.send server (.query commitText)).1.result.map fun _ => (), (Server.send server (.query commitText)).2,
      (Server.send server (.query commitText)).1.settled) := by
  unfold commit
  rw [exchange_of_ne_broken server (by decide)]
  cases (Server.send server (.query commitText)).1 <;> rfl

/-- The cause of a rollback is its answer, whatever the server says to it. -/
theorem rollBack_idle (cause : ClientError) : ∃ log, rollBack server .idle cause =
    (.error cause, (Server.send server (.query rollbackText)).2, (Server.send server (.query rollbackText)).1.settled, log) := by
  unfold rollBack
  rw [exchange_of_ne_broken server (by decide)]
  cases (Server.send server (.query rollbackText)).1 <;> exact ⟨_, rfl⟩

theorem rollBack_broken (cause : ClientError) :
    rollBack server .broken cause = (.error cause, server, .broken, #[.rollbackFailed .disconnected]) := rfl

theorem cleanUp_abandoned : cleanUp server .abandoned =
    ((Server.send server (.query rollbackText)).1.result.map fun _ => (), (Server.send server (.query rollbackText)).2,
      (Server.send server (.query rollbackText)).1.link .idle) := by
  unfold cleanUp
  rw [exchange_of_ne_broken server (by decide)]

/-- A transaction that was left open is rolled back before the next one starts. -/
theorem transact_abandoned_of_done {v : Option UInt64} (h : (Server.send server (.query rollbackText)).1 = .done v)
    (statement : Sql.Statement) :
    transact server .abandoned statement = transact (Server.send server (.query rollbackText)).2 .idle statement := by
  unfold transact request
  rw [cleanUp_abandoned, h]
  rfl

/-- Unless it can be rolled back, none is started. -/
theorem transact_abandoned_of_failed {e : ClientError} (h : (Server.send server (.query rollbackText)).1.result = .error e)
    (statement : Sql.Statement) :
    transact server .abandoned statement = (.error e, (Server.send server (.query rollbackText)).2,
      (Server.send server (.query rollbackText)).1.link .idle, #[]) := by
  unfold transact request
  rw [cleanUp_abandoned, h]
  rfl

end

end Session

/-! ### transactions -/

open Session in
/-- How a transaction for a statement can go: its exchanges, its answer, and the link behind it. -/
inductive Transaction (statement : Sql.Statement) : List Exchange → Except ClientError Unit → Link → Prop where
  | committed {v w x : Option UInt64} : Transaction statement
      [(.query startText, .done v), (.execute statement, .done w), (.query commitText, .done x)] (.ok ()) .idle
  /-- it is not started -/
  | unstarted {a : Answer} {e : ClientError} (failed : a.result = .error e) :
      Transaction statement [(.query startText, a)] (.error e) (a.link .idle)
  /-- the statement is refused, and rolled back, whatever the server says to that -/
  | rolledBack {v : Option UInt64} {e : ServerError} {b : Answer} : Transaction statement
      [(.query startText, .done v), (.execute statement, .refused e), (.query rollbackText, b)] (.error (.refused e)) b.settled
  /-- the connection goes with the statement, and nothing can be sent any more -/
  | lost {v : Option UInt64} {a : Answer} {e : ClientError} (gone : a.link .idle = .broken) (failed : a.result = .error e) :
      Transaction statement [(.query startText, .done v), (.execute statement, a)] (.error e) .broken
  /-- the commit fails, and nothing is sent behind it -/
  | uncommitted {v w : Option UInt64} {a : Answer} {e : ClientError} (failed : a.result = .error e) : Transaction statement
      [(.query startText, .done v), (.execute statement, .done w), (.query commitText, a)] (.error e) a.settled

namespace Session

variable [Server σ]

theorem request_idle (server : σ) (r : Request) : request server .idle r = exchange server .idle r := rfl

/-- The end of a transaction that was started: the statement, and what its answer leads to. -/
def finish (server : σ) (statement : Sql.Statement) : Except ClientError Unit × σ × Link × Log :=
  match exchange server .idle (.execute statement) with
  | (.ok _, server, link) => ((commit server link).1, (commit server link).2.1, (commit server link).2.2, #[])
  | (.error e, server, link) => rollBack server link e

theorem finish_of_done (server : σ) {statement : Sql.Statement} {w : Option UInt64}
    (h : (Server.send server (.execute statement)).1 = .done w) :
    finish server statement = ((commit (Server.send server (.execute statement)).2 .idle).1,
      (commit (Server.send server (.execute statement)).2 .idle).2.1,
      (commit (Server.send server (.execute statement)).2 .idle).2.2, #[]) := by
  unfold finish
  rw [exchange_of_ne_broken server (by decide), h]
  rfl

theorem finish_of_failed (server : σ) {statement : Sql.Statement} {e : ClientError}
    (h : (Server.send server (.execute statement)).1.result = .error e) :
    finish server statement = rollBack (Server.send server (.execute statement)).2
      ((Server.send server (.execute statement)).1.link .idle) e := by
  unfold finish
  rw [exchange_of_ne_broken server (by decide), h]

/-- A transaction that was started goes on in one of the ways of `Transaction`. -/
theorem exists_finish (d : Dialogue σ) (statement : Sql.Statement) (v : Option UInt64) :
    ∃ exchanges, Transaction statement ((.query startText, .done v) :: exchanges) (finish d statement).1
        (finish d statement).2.2.1 ∧
      (finish d statement).2.1.exchanges = d.exchanges ++ exchanges := by
  cases hexecute : (Server.send d.server (.execute statement)).1.result with
  | ok w =>
    have hdone := Answer.eq_done_of_result hexecute
    rw [finish_of_done d hdone, commit_idle]
    refine ⟨[(.execute statement, .done w),
      (.query commitText, (Server.send (d.next (.execute statement)).server (.query commitText)).1)], ?_, ?_⟩
    · show Transaction statement _
        ((Server.send (d.next (.execute statement)).server (.query commitText)).1.result.map fun _ => ())
        (Server.send (d.next (.execute statement)).server (.query commitText)).1.settled
      cases hcommit : (Server.send (d.next (.execute statement)).server (.query commitText)).1.result with
      | error e => exact .uncommitted hcommit
      | ok x =>
        rw [Answer.eq_done_of_result hcommit]
        exact .committed
    · simp [send_dialogue, Dialogue.next, hdone]
  | error e =>
    rw [finish_of_failed d hexecute, send_dialogue]
    by_cases hgone : (Server.send d.server (.execute statement)).1.link .idle = .broken
    · -- no rollback can be sent
      rw [hgone, rollBack_broken]
      exact ⟨_, .lost hgone hexecute, rfl⟩
    · obtain ⟨f, hrefused, rfl⟩ := Answer.eq_refused_of_result hexecute hgone
      obtain ⟨log, hrollBack⟩ := rollBack_idle (d.next (.execute statement)) (.refused f)
      rw [hrefused]
      simp only [Answer.link, hrollBack]
      refine ⟨_, .rolledBack, ?_⟩
      simp [send_dialogue, Dialogue.next, hrefused]

theorem transact_of_done (server : σ) {v : Option UInt64} (h : (Server.send server (.query startText)).1 = .done v)
    (statement : Sql.Statement) :
    transact server .idle statement = finish (Server.send server (.query startText)).2 statement := by
  unfold transact
  rw [request_idle, exchange_of_ne_broken server (by decide), h]
  rfl

theorem transact_of_failed (server : σ) {e : ClientError} (h : (Server.send server (.query startText)).1.result = .error e)
    (statement : Sql.Statement) :
    transact server .idle statement = (.error e, (Server.send server (.query startText)).2,
      (Server.send server (.query startText)).1.link .idle, #[]) := by
  unfold transact
  rw [request_idle, exchange_of_ne_broken server (by decide), h]

/-- **One transaction.** On an idle link, a transaction goes one of the ways of `Transaction`, and its exchanges are all that
is said. -/
theorem transact_idle (d : Dialogue σ) (statement : Sql.Statement) :
    ∃ exchanges, Transaction statement exchanges (transact d .idle statement).1 (transact d .idle statement).2.2.1 ∧
      (transact d .idle statement).2.1.exchanges = d.exchanges ++ exchanges := by
  cases hstart : (Server.send d.server (.query startText)).1.result with
  | error e =>
    rw [transact_of_failed d hstart]
    exact ⟨_, .unstarted hstart, rfl⟩
  | ok v =>
    have hdone := Answer.eq_done_of_result hstart
    obtain ⟨exchanges, hways, hsaid⟩ := exists_finish (d.next (.query startText)) statement v
    rw [transact_of_done d hdone, send_dialogue]
    refine ⟨_, hways, hsaid.trans ?_⟩
    simp [Dialogue.next, hdone]

end Session

/-- What goes in front of a transaction over a link, and whether the transaction can be started behind it: a transaction that
was left open is rolled back first, and nothing is sent over a broken link. -/
inductive Opening : Link → List Exchange → Except ClientError Unit → Prop where
  | idle : Opening .idle [] (.ok ())
  | cleaned {u : Option UInt64} : Opening .abandoned [(.query Session.rollbackText, .done u)] (.ok ())
  | uncleaned {a : Answer} {e : ClientError} (failed : a.result = .error e) :
      Opening .abandoned [(.query Session.rollbackText, a)] (.error e)
  | broken : Opening .broken [] (.error .disconnected)

theorem opening_idle_iff {front : List Exchange} {answer : Except ClientError Unit} :
    Opening .idle front answer ↔ front = [] ∧ answer = .ok () := by
  constructor
  · rintro ⟨⟩
    exact ⟨rfl, rfl⟩
  · rintro ⟨rfl, rfl⟩
    exact .idle

/-- An opening starts nothing. -/
theorem Opening.start_notMem {link : Link} {front : List Exchange} {answer : Except ClientError Unit}
    (h : Opening link front answer) (a : Answer) : ((.query Session.startText, a) : Exchange) ∉ front := by
  have hne : (.query Session.startText : Request) ≠ .query Session.rollbackText := by decide
  cases h <;> simp [hne]

namespace Session

variable [Server σ]

/-- **One transaction over any link.** If it can be opened it goes one of the ways of `Transaction`, else it fails as the
opening does; either way nothing else is said. -/
theorem transact_ways (d : Dialogue σ) (link : Link) (statement : Sql.Statement) :
    (∃ front e, Opening link front (.error e) ∧ (transact d link statement).1 = .error e ∧
      (transact d link statement).2.1.exchanges = d.exchanges ++ front) ∨
    ∃ front exchanges, Opening link front (.ok ()) ∧
      Transaction statement exchanges (transact d link statement).1 (transact d link statement).2.2.1 ∧
      (transact d link statement).2.1.exchanges = d.exchanges ++ (front ++ exchanges) := by
  cases link with
  | broken => exact Or.inl ⟨[], _, .broken, rfl, (List.append_nil _).symm⟩
  | idle =>
    obtain ⟨exchanges, hways, hsaid⟩ := transact_idle d statement
    exact Or.inr ⟨[], exchanges, .idle, hways, hsaid⟩
  | abandoned =>
    cases hcleaned : (Server.send d.server (.query rollbackText)).1.result with
    | error e =>
      rw [transact_abandoned_of_failed d hcleaned]
      exact Or.inl ⟨_, e, .uncleaned hcleaned, rfl, rfl⟩
    | ok u =>
      have hdone := Answer.eq_done_of_result hcleaned
      obtain ⟨exchanges, hways, hsaid⟩ := transact_idle (d.next (.query rollbackText)) statement
      rw [transact_abandoned_of_done d hdone, send_dialogue]
      refine Or.inr ⟨[(.query rollbackText, .done u)], exchanges, .cleaned, hways, hsaid.trans ?_⟩
      simp [Dialogue.next, hdone]

/-! ### writes -/

theorem write_open (server : σ) (link : Link) (statement : Sql.Statement) :
    Sink.write (⟨server, some link⟩ : Session σ) statement =
      ⟨((transact server link statement).1.mapError LoadError.client).map fun _ => UInt64.ofNat statement.rows,
        ⟨(transact server link statement).2.1, some (transact server link statement).2.2.1⟩,
        (transact server link statement).2.2.2⟩ := rfl

/-- An accepted write is a committed transaction. -/
theorem write_accepted {d : Dialogue σ} {link : Link} {statement : Sql.Statement} {rows : UInt64}
    (h : (Sink.write (⟨d, some link⟩ : Session (Dialogue σ)) statement).answer = .ok rows) :
    ∃ front part, Opening link front (.ok ()) ∧ Transaction statement part (.ok ()) .idle ∧
      (Sink.write (⟨d, some link⟩ : Session (Dialogue σ)) statement).sink.link = some .idle ∧
      (Sink.write (⟨d, some link⟩ : Session (Dialogue σ)) statement).sink.server.exchanges =
        d.exchanges ++ (front ++ part) := by
  rw [write_open] at h ⊢
  rcases transact_ways d link statement with ⟨front, e, -, hanswer, -⟩ | ⟨front, part, hopening, hways, hsaid⟩
  · rw [hanswer] at h
    cases h
  · generalize transact d link statement = ended at h hways hsaid ⊢
    obtain ⟨answer, d', link', log⟩ := ended
    cases answer with
    | error e => cases h
    | ok =>
      cases hways
      exact ⟨front, _, hopening, .committed, rfl, hsaid⟩

/-- A refused write could not be opened, or is a transaction that failed. -/
theorem write_refused {d : Dialogue σ} {link : Link} {statement : Sql.Statement} {cause : LoadError}
    (h : (Sink.write (⟨d, some link⟩ : Session (Dialogue σ)) statement).answer = .error cause) :
    ∃ e, cause = .client e ∧
      ((∃ front, Opening link front (.error e) ∧
        (Sink.write (⟨d, some link⟩ : Session (Dialogue σ)) statement).sink.server.exchanges = d.exchanges ++ front) ∨
      ∃ front part link', Opening link front (.ok ()) ∧ Transaction statement part (.error e) link' ∧
        (Sink.write (⟨d, some link⟩ : Session (Dialogue σ)) statement).sink.link = some link' ∧
        (Sink.write (⟨d, some link⟩ : Session (Dialogue σ)) statement).sink.server.exchanges =
          d.exchanges ++ (front ++ part)) := by
  rw [write_open] at h ⊢
  rcases transact_ways d link statement with ⟨front, e, hopening, hanswer, hsaid⟩ | ⟨front, part, hopening, hways, hsaid⟩
  · rw [hanswer] at h
    cases h
    exact ⟨e, rfl, Or.inl ⟨front, hopening, hsaid⟩⟩
  · generalize transact d link statement = ended at h hways hsaid ⊢
    obtain ⟨answer, d', link', log⟩ := ended
    cases answer with
    | ok => cases h
    | error e =>
      cases h
      exact ⟨e, rfl, Or.inr ⟨front, part, link', hopening, hways, rfl, hsaid⟩⟩

end Session

end RowLoader.Server
