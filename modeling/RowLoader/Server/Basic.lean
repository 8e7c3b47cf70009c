import RowLoader.Connection.Settings
import RowLoader.Failure
import RowLoader.Sql.Statement

/-!
# Servers

A server as its clients see it: a state that answers one request after the other. Nothing is assumed of the answers.
-/

namespace RowLoader.Server

inductive Request where
  | connect (login : Connection.Login)
  | query (text : String)
  | execute (statement : Sql.Statement)
  | quit
  deriving DecidableEq

inductive Answer where
  /-- accepted, with the first value of the first row if there is one -/
  | done (value : Option UInt64)
  | refused (e : ServerError)
  /-- the connection is closed without an answer -/
  | dropped
  /-- nothing listens, the request was not sent -/
  | unreachable
  deriving DecidableEq

end RowLoader.Server

namespace RowLoader

class Server (σ : Type) where
  send (s : σ) (r : Server.Request) : Server.Answer × σ

end RowLoader
