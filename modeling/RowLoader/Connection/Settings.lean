/-!
# Connection settings

Where to connect and as whom. The printed address leaves the password out.
-/

namespace RowLoader.Connection

structure Settings where
  host : String
  tcpPort : UInt16
  user : String
  password : String
  database : String
  deriving DecidableEq

/-- `user@host:number/database`. -/
def Settings.address (s : Settings) : String := s!"{s.user}@{s.host}:{s.tcpPort}/{s.database}"

/-- Who logs in to which database; an empty password is none. -/
structure Login where
  user : Option String
  password : Option String
  database : Option String
  deriving DecidableEq

def presentPassword (password : String) : Option String := if password.isEmpty then none else some password

def Settings.login (s : Settings) : Login := ⟨some s.user, presentPassword s.password, some s.database⟩

end RowLoader.Connection
