import RowLoader.Connection.Mask
import RowLoader.Loader
import RowLoader.Server.Basic

/-!
# Sessions

A sink over a server: one connection, each batch in a transaction of its own. A transaction whose `COMMIT` or `ROLLBACK`
fails is left open, and the next request first rolls it back. A connection that the server dropped is not used again, and
one that was closed is gone.
-/

namespace RowLoader.Server

inductive Link where
  | idle
  /-- a transaction was left open -/
  | abandoned
  /-- dropped by the server -/
  | broken
  deriving DecidableEq

/-- No link once the session is closed. -/
structure Session (σ : Type) where
  server : σ
  link : Option Link

namespace Session

variable {σ : Type} [Server σ]

/-! ### requests -/

/-- A request on a link that may be broken, and the link afterwards: as it was, unless the server drops it. -/
def exchange (server : σ) (link : Link) (r : Request) : Except ClientError (Option UInt64) × σ × Link :=
  if link = .broken then (.error .disconnected, server, .broken)
  else
    match Server.send server r with
    | (.done value, server) => (.ok value, server, link)
    | (.refused e, server) => (.error (.refused e), server, link)
    | (.dropped, server) => (.error .dropped, server, .broken)
    | (.unreachable, server) => (.error .unreachable, server, .broken)

theorem exchange_broken (server : σ) (r : Request) :
    exchange server .broken r = (.error .disconnected, server, .broken) := rfl

def startText : String := "START TRANSACTION"

def commitText : String := "COMMIT"

def rollbackText : String := "ROLLBACK"

/-- Rolls back a transaction that was left open; it is tried once. -/
def cleanUp (server : σ) (link : Link) : Except ClientError Unit × σ × Link :=
  match link with
  | .abandoned =>
    let (answer, server, link) := exchange server .idle (.query rollbackText)
    (answer.map fun _ => (), server, link)
  | _ => (.ok (), server, link)

/-- A request from outside a transaction; it is not sent if the clean-up before it fails. -/
def request (server : σ) (link : Link) (r : Request) : Except ClientError (Option UInt64) × σ × Link :=
  match cleanUp server link with
  | (.error e, server, link) => (.error e, server, link)
  | (.ok (), server, link) => exchange server link r

/-- The link after a transaction was left open. -/
def abandon : Link → Link
  | .broken => .broken
  | _ => .abandoned

/-! ### transactions -/

/-- After the statement was accepted. -/
def commit (server : σ) (link : Link) : Except ClientError Unit × σ × Link :=
  match exchange server link (.query commitText) with
  | (.ok _, server, link) => (.ok (), server, link)
  | (.error e, server, link) => (.error e, server, abandon link)

/-- After the statement was refused: its error stays the answer, one of the rollback is only logged. -/
def rollBack (server : σ) (link : Link) (cause : ClientError) : Except ClientError Unit × σ × Link × Log :=
  match exchange server link (.query rollbackText) with
  | (.ok _, server, link) => (.error cause, server, link, #[])
  | (.error e, server, link) => (.error cause, server, abandon link, #[.rollbackFailed e])

def transact (server : σ) (link : Link) (statement : Sql.Statement) : Except ClientError Unit × σ × Link × Log :=
  match request server link (.query startText) with
  | (.error e, server, link) => (.error e, server, link, #[])
  | (.ok _, server, link) =>
    match exchange server link (.execute statement) with
    | (.ok _, server, link) =>
      let (answer, server, link) := commit server link
      (answer, server, link, #[])
    | (.error e, server, link) => rollBack server link e

/-! ### the sink -/

def reply {α β : Type} (answer : Except ClientError α) (f : α → β) (server : σ) (link : Option Link) (log : Log) :
    Reply (Session σ) β :=
  ⟨(answer.mapError LoadError.client).map f, ⟨server, link⟩, log⟩

def closedReply {α : Type} (s : Session σ) (log : Log) : Reply (Session σ) α :=
  ⟨.error (.connection "connection already closed"), s, log⟩

def truncate (s : Session σ) (table : String) : Reply (Session σ) Unit :=
  let log : Log := #[.sending (Sql.truncateText table)]
  match s.link with
  | none => s.closedReply log
  | some link =>
    let (answer, server, link) := request s.server link (.query (Sql.truncateText table))
    reply answer (fun _ => ()) server (some link) log

def write (s : Session σ) (statement : Sql.Statement) : Reply (Session σ) UInt64 :=
  match s.link with
  | none => s.closedReply #[]
  | some link =>
    let (answer, server, link, log) := transact s.server link statement
    reply answer (fun _ => UInt64.ofNat statement.rows) server (some link) log

/-- An answer without a value counts as zero. -/
def count (s : Session σ) (table : String) : Reply (Session σ) UInt64 :=
  match s.link with
  | none => s.closedReply #[]
  | some link =>
    let (answer, server, link) := request s.server link (.query (Sql.countText table))
    reply answer (fun value => value.getD 0) server (some link) #[]

/-- Closing what is closed, or was dropped, sends nothing and succeeds. -/
def close (s : Session σ) : Reply (Session σ) Unit :=
  match s.link with
  | none => ⟨.ok (), s, #[]⟩
  | some .broken => ⟨.ok (), { s with link := none }, #[.disconnecting]⟩
  | some link =>
    match cleanUp s.server link with
    | (.error e, server, _) => ⟨.error (.client e), ⟨server, none⟩, #[.disconnecting]⟩
    | (.ok (), server, _) => ⟨.ok (), ⟨(Server.send server .quit).2, none⟩, #[.disconnecting]⟩

instance : Sink (Session σ) := ⟨truncate, write, count, close⟩

/-! ### connecting -/

/-- Nothing is sent if the endpoint comes to nothing. -/
def establish (server : σ) (access : Connection.Access) (address : String) : Except LoadError (Session σ) × σ × Log :=
  let log : Log := #[.connecting address]
  match access.endpoint.fault? with
  | some fault => (.error (.connect address (.endpoint fault)), server, log)
  | none =>
    match exchange server .idle (.connect access.login) with
    | (.ok _, server, link) => (.ok ⟨server, some link⟩, server, log)
    | (.error e, server, _) => (.error (.connect address e), server, log)

def connect (server : σ) (settings : Connection.Settings) : Except LoadError (Session σ) × σ × Log :=
  establish server settings.access settings.address

/-- Nothing is sent for a plan that is refused. -/
def connectPlan (server : σ) (settings : Connection.Settings) (plan : LoadPlan) :
    Except LoadError (Session σ) × σ × Log :=
  match plan.validate with
  | .error r => (.error (.config r), server, #[])
  | .ok () => connect server settings

/-- Nothing is sent for a URL that cannot be read; the password does not show in the address. -/
def connectByUrl (server : σ) (url : String) : Except LoadError (Session σ) × σ × Log :=
  match Connection.Access.ofUrl url with
  | .error e => (.error (.config (.url e)), server, #[])
  | .ok access => establish server access (Connection.maskPassword url)

end Session

end RowLoader.Server
