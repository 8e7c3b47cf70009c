import RowLoader.Server.Basic

/-!
# Recording servers

Keeps the requests that were sent to a server. A request that found nothing listening was not sent.
-/

namespace RowLoader.Server

structure Recording (σ : Type) where
  server : σ
  sent : Array Request := #[]

namespace Recording

variable {σ : Type} [Server σ]

def send (s : Recording σ) (r : Request) : Answer × Recording σ :=
  match Server.send s.server r with
  | (.unreachable, server) => (.unreachable, { s with server := server })
  | (answer, server) => (answer, ⟨server, s.sent.push r⟩)

instance : Server (Recording σ) := ⟨send⟩

end Recording

end RowLoader.Server
