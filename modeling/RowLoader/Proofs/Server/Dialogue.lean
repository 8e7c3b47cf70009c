import RowLoader.Proofs.Sink.Map
import RowLoader.Server.Session

/-!
# Dialogues

A server that keeps its exchanges answers as the server below it. What is done over a server that answers alike across a map
is the same on both sides, so a write over a dialogue is the write over the server, with what was said for it.

* `Server.Dialogue`: a server that keeps its exchanges;
* `Server.Carries f`: servers answer alike across `f`;
* `Server.Session.carriesWrites_mapServer`, `Server.Session.carries_mapServer`: then so do the sessions over them;
* `Server.Session.establish_mapServer`: a session is established alike.
-/

namespace RowLoader.Server

variable {σ τ : Type}

/-- A request put to a server, and what came back. -/
abbrev Exchange : Type := Request × Answer

/-- A server that keeps its exchanges, the last one at the end. -/
structure Dialogue (σ : Type) where
  server : σ
  exchanges : List Exchange := []

/-- The dialogue after one more request. -/
def Dialogue.next [Server σ] (d : Dialogue σ) (r : Request) : Dialogue σ :=
  ⟨(Server.send d.server r).2, d.exchanges ++ [(r, (Server.send d.server r).1)]⟩

instance [Server σ] : Server (Dialogue σ) := ⟨fun d r => ((Server.send d.server r).1, d.next r)⟩

theorem send_dialogue [Server σ] (d : Dialogue σ) (r : Request) :
    Server.send d r = ((Server.send d.server r).1, d.next r) := rfl

/-! ### maps of servers -/

def Carries [Server σ] [Server τ] (f : σ → τ) : Prop := ∀ s r, Server.send (f s) r = (Server.send s r).map id f

theorem carries_dialogue [Server σ] : Carries (Dialogue.server : Dialogue σ → σ) := fun _ _ => rfl

namespace Session

/-- The session with its server seen through a map. -/
def mapServer (f : σ → τ) (s : Session σ) : Session τ := ⟨f s.server, s.link⟩

variable [Server σ] [Server τ] {f : σ → τ}

theorem exchange_mapServer (hf : Carries f) (server : σ) (link : Link) (r : Request) :
    exchange (f server) link r = (exchange server link r).map id (Prod.map f id) := by
  unfold exchange
  rw [hf]
  by_cases hbroken : link = .broken
  · rw [if_pos hbroken, if_pos hbroken]
    rfl
  · rw [if_neg hbroken, if_neg hbroken]
    obtain ⟨answer, server'⟩ := Server.send server r
    cases answer <;> rfl

theorem cleanUp_mapServer (hf : Carries f) (server : σ) (link : Link) :
    cleanUp (f server) link = (cleanUp server link).map id (Prod.map f id) := by
  cases link with
  | idle => rfl
  | broken => rfl
  | abandoned =>
    unfold cleanUp
    rw [exchange_mapServer hf]
    rfl

theorem request_mapServer (hf : Carries f) (server : σ) (link : Link) (r : Request) :
    request (f server) link r = (request server link r).map id (Prod.map f id) := by
  unfold request
  rw [cleanUp_mapServer hf]
  obtain ⟨answer, server', link'⟩ := cleanUp server link
  cases answer with
  | error e => rfl
  | ok => exact exchange_mapServer hf server' link' r

theorem commit_mapServer (hf : Carries f) (server : σ) (link : Link) :
    commit (f server) link = (commit server link).map id (Prod.map f id) := by
  unfold commit
  rw [exchange_mapServer hf]
  obtain ⟨answer, server', link'⟩ := exchange server link (.query commitText)
  cases answer <;> rfl

theorem rollBack_mapServer (hf : Carries f) (server : σ) (link : Link) (cause : ClientError) :
    rollBack (f server) link cause = (rollBack server link cause).map id (Prod.map f id) := by
  unfold rollBack
  rw [exchange_mapServer hf]
  obtain ⟨answer, server', link'⟩ := exchange server link (.query rollbackText)
  cases answer <;> rfl

theorem transact_mapServer (hf : Carries f) (server : σ) (link : Link) (statement : Sql.Statement) :
    transact (f server) link statement = (transact server link statement).map id (Prod.map f id) := by
  unfold transact
  rw [request_mapServer hf]
  obtain ⟨started, server, link⟩ := request server link (.query startText)
  cases started with
  | error e => rfl
  | ok value =>
    simp only [Prod.map, id, exchange_mapServer hf]
    obtain ⟨executed, server, link⟩ := exchange server link (.execute statement)
    cases executed with
    | error e => exact rollBack_mapServer hf server link e
    | ok value =>
      simp only [commit_mapServer hf]
      rfl

/-- Sessions answer alike where their servers do. -/
theorem carriesWrites_mapServer (hf : Carries f) : Sink.CarriesWrites (mapServer f) := by
  rintro ⟨server, link⟩ statement
  cases link with
  | none => rfl
  | some link =>
    show write (⟨f server, some link⟩ : Session τ) statement = Reply.mapSink (mapServer f) (write ⟨server, some link⟩ statement)
    simp only [write, transact_mapServer hf]
    rfl

/-- So do their other calls. -/
theorem carries_mapServer (hf : Carries f) : Sink.Carries (mapServer f) where
  writes := carriesWrites_mapServer hf
  truncates := by
    rintro ⟨server, link⟩ table
    cases link with
    | none => rfl
    | some link =>
      show truncate (⟨f server, some link⟩ : Session τ) table =
        Reply.mapSink (mapServer f) (truncate ⟨server, some link⟩ table)
      simp only [truncate, request_mapServer hf]
      rfl
  counts := by
    rintro ⟨server, link⟩ table
    cases link with
    | none => rfl
    | some link =>
      show count (⟨f server, some link⟩ : Session τ) table = Reply.mapSink (mapServer f) (count ⟨server, some link⟩ table)
      simp only [count, request_mapServer hf]
      rfl
  closes := by
    rintro ⟨server, link⟩
    cases link with
    | none => rfl
    | some link =>
      by_cases hbroken : link = .broken
      · subst hbroken
        rfl
      · show close (⟨f server, some link⟩ : Session τ) = Reply.mapSink (mapServer f) (close ⟨server, some link⟩)
        have hquit : ∀ s, (Server.send (f s) .quit).2 = f (Server.send s .quit).2 := fun s => congrArg Prod.snd (hf s .quit)
        simp only [close, cleanUp_mapServer hf]
        obtain ⟨answer, server', link'⟩ := cleanUp server link
        cases answer with
        | error e => rfl
        | ok =>
          simp only [Prod.map, id, hquit]
          rfl

/-- A session is established alike. -/
theorem establish_mapServer (hf : Carries f) (server : σ) (access : Connection.Access) (address : String) :
    establish (f server) access address =
      (establish server access address).map (Except.map (mapServer f)) (Prod.map f id) := by
  unfold establish
  cases access.endpoint.fault? with
  | some fault => rfl
  | none =>
    simp only [exchange_mapServer hf]
    obtain ⟨answer, server', link⟩ := exchange server .idle (.connect access.login)
    cases answer <;> rfl

end Session

end RowLoader.Server
