import RowLoader.Proofs.Server.Transaction
import RowLoader.Server.Scripted

/-!
# Writes that fail

A write that fails after its transaction was started is rolled back if its statement is refused. Where its `COMMIT` fails it is
not: nothing is sent before the write returns.

* `Server.FailsAfterStart`: the three ways to fail after the start;
* `Server.Session.write_fails_after_start_iff`: a write fails after the start in these ways and in no other.
-/

namespace RowLoader.Server

variable {σ : Type}

/-- How a transaction that was started fails: its exchanges, its error, and the link behind it. -/
def FailsAfterStart (statement : Sql.Statement) (exchanges : List Exchange) (e : ClientError) (link : Link) : Prop :=
  ∃ v : Option UInt64,
    (∃ f b, exchanges = [(.query Session.startText, .done v), (.execute statement, .refused f),
      (.query Session.rollbackText, b)] ∧ e = .refused f ∧ link = b.settled) ∨
    (∃ a, exchanges = [(.query Session.startText, .done v), (.execute statement, a)] ∧ a.result = .error e ∧
      a.link .idle = .broken ∧ link = .broken) ∨
    ∃ w a, exchanges = [(.query Session.startText, .done v), (.execute statement, .done w),
      (.query Session.commitText, a)] ∧ a.result = .error e ∧ link = a.settled

theorem Transaction.fails_after_start {statement : Sql.Statement} {exchanges : List Exchange} {e : ClientError}
    {link : Link} {v : Option UInt64} (h : Transaction statement exchanges (.error e) link)
    (hstart : (.query Session.startText, .done v) ∈ exchanges) : FailsAfterStart statement exchanges e link := by
  cases h with
  | unstarted failed =>
    rw [List.mem_singleton] at hstart
    cases hstart
    cases failed
  | rolledBack => exact ⟨_, Or.inl ⟨_, _, rfl, rfl, rfl⟩⟩
  | lost gone failed => exact ⟨_, Or.inr (Or.inl ⟨_, rfl, failed, gone, rfl⟩)⟩
  | uncommitted failed => exact ⟨_, Or.inr (Or.inr ⟨_, _, rfl, failed, rfl⟩)⟩

theorem FailsAfterStart.exists_start {statement : Sql.Statement} {exchanges : List Exchange} {e : ClientError}
    {link : Link} (h : FailsAfterStart statement exchanges e link) :
    ∃ v, (.query Session.startText, .done v) ∈ exchanges := by
  obtain ⟨v, ⟨f, b, rfl, -⟩ | ⟨a, rfl, -⟩ | ⟨w, a, rfl, -⟩⟩ := h <;> exact ⟨v, List.mem_cons_self⟩

namespace Session

variable [Server σ]

/-- A write, with what is said to the server for it. -/
def writeOverheard (server : σ) (link : Option Link) (statement : Sql.Statement) : Reply (Session (Dialogue σ)) UInt64 :=
  Sink.write ⟨⟨server, []⟩, link⟩ statement

/-- Overhearing a write does not change it. -/
theorem writeOverheard_mapSink (server : σ) (link : Option Link) (statement : Sql.Statement) :
    (writeOverheard server link statement).mapSink (mapServer Dialogue.server) =
      Sink.write (⟨server, link⟩ : Session σ) statement :=
  (carriesWrites_mapServer carries_dialogue ⟨⟨server, []⟩, link⟩ statement).symm

/-- **Failing writes.** A write fails after its transaction was started exactly if its statement is refused, and then a
`ROLLBACK` ends the exchanges, or the connection goes with the statement, or the `COMMIT` fails. In the last two cases nothing
is sent behind it, and a refused `COMMIT` leaves the transaction open. -/
theorem write_fails_after_start_iff (server : σ) (link : Option Link) (statement : Sql.Statement) :
    (writeOverheard server link statement).mapSink (mapServer Dialogue.server) =
      Sink.write (⟨server, link⟩ : Session σ) statement ∧
    (((∃ e, (writeOverheard server link statement).answer = .error e) ∧
      ∃ v, (.query startText, .done v) ∈ (writeOverheard server link statement).sink.server.exchanges) ↔
    ∃ before front exchanges e link', link = some before ∧ Opening before front (.ok ()) ∧
      (writeOverheard server link statement).sink.server.exchanges = front ++ exchanges ∧
      FailsAfterStart statement exchanges e link' ∧
      (writeOverheard server link statement).answer = .error (.client e) ∧
      (writeOverheard server link statement).sink.link = some link') := by
  refine ⟨writeOverheard_mapSink server link statement, ?_, ?_⟩
  · rintro ⟨⟨cause, hcause⟩, v, hv⟩
    cases link with
    | none => cases hv
    | some link =>
      obtain ⟨e, rfl, ⟨front, hopening, hsaid⟩ | ⟨front, part, link', hopening, hways, hlink', hsaid⟩⟩ := write_refused hcause
      · rw [writeOverheard, hsaid] at hv
        exact absurd hv (hopening.start_notMem _)
      · rw [writeOverheard, hsaid] at hv
        change _ ∈ front ++ part at hv
        have hstart := (List.mem_append.1 hv).resolve_left (hopening.start_notMem _)
        exact ⟨link, front, part, e, link', rfl, hopening, hsaid, hways.fails_after_start hstart, hcause, hlink'⟩
  · rintro ⟨before, front, exchanges, e, link', -, -, hsaid, hfails, hanswer, -⟩
    obtain ⟨v, hv⟩ := hfails.exists_start
    refine ⟨⟨_, hanswer⟩, v, ?_⟩
    rw [hsaid]
    exact List.mem_append_right front hv

/-- A write to a server that refuses the first `COMMIT`. -/
def writeUncommitted : Reply (Session (Dialogue Scripted)) UInt64 :=
  writeOverheard ({ rules := [⟨commitText, 1, .refused ⟨1105, "HY000", "failed"⟩⟩] } : Scripted) (some .idle)
    ⟨"INSERT INTO t (a) VALUES (?)", [.int 1], 1⟩

/-- It fails without a `ROLLBACK`: not every write that fails after its transaction was started is rolled back. -/
theorem write_without_rollback : ¬ ∀ (τ : Type) [Server τ] (server : τ) (link : Option Link) (statement : Sql.Statement),
    (∃ e, (writeOverheard server link statement).answer = .error e) →
    (∃ v, (.query startText, .done v) ∈ (writeOverheard server link statement).sink.server.exchanges) →
    ∃ a, (.query rollbackText, a) ∈ (writeOverheard server link statement).sink.server.exchanges := by
  intro hall
  have hfails : writeUncommitted.answer.isOk = false := by decide +kernel
  have hstart : (.query startText, .done none) ∈ writeUncommitted.sink.server.exchanges := by decide +kernel
  have hsilent : (.query rollbackText) ∉ writeUncommitted.sink.server.exchanges.map Prod.fst := by decide +kernel
  cases hanswer : writeUncommitted.answer with
  | ok rows =>
    rw [hanswer] at hfails
    cases hfails
  | error e =>
    obtain ⟨a, ha⟩ := hall Scripted _ _ _ ⟨e, hanswer⟩ ⟨none, hstart⟩
    exact hsilent (List.mem_map_of_mem ha)

end Session

end RowLoader.Server
