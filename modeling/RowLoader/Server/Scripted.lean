import RowLoader.Server.Basic

/-!
# A scripted server

Counts rows instead of keeping them. Rows of a batch show once they are committed and are gone after a rollback. Rules make
the server refuse the request, or drop the connection, the n-th time that a request's text starts as the rule says.
-/

namespace RowLoader.Server

/-- The text by which rules know a request. -/
def Request.text : Request → String
  | .connect _ => "CONNECT"
  | .query text => text
  | .execute _ => "EXECUTE"
  | .quit => "QUIT"

/-- A rule hits the request that brings its countdown to the end. -/
structure Rule where
  start : String
  countdown : Nat
  answer : Answer

/-- What the server answers to a count: the rows held, a fixed number, or a result without rows. -/
inductive CountAnswer where
  | held
  | fixed (n : UInt64)
  | empty

structure Scripted where
  rules : List Rule := []
  count : CountAnswer := .held
  listens : Bool := true
  rows : UInt64 := 0
  /-- rows of the open transaction -/
  uncommitted : UInt64 := 0

namespace Scripted

/-- Every rule that the text concerns counts down; the first that comes to its end gives the answer. -/
def applyRules (text : String) : List Rule → Option Answer × List Rule
  | [] => (none, [])
  | rule :: rest =>
    let (answer, rest) := applyRules text rest
    if rule.start.isPrefixOf text then
      (if rule.countdown = 1 then some rule.answer else answer, { rule with countdown := rule.countdown - 1 } :: rest)
    else (answer, rule :: rest)

/-- The accepted request's effect on the rows, and its value. -/
def accept (s : Scripted) : Request → Answer × Scripted
  | .execute statement => (.done none, { s with uncommitted := s.uncommitted + UInt64.ofNat statement.rows })
  | .query text =>
    if text = "COMMIT" then (.done none, { s with rows := s.rows + s.uncommitted, uncommitted := 0 })
    else if text = "ROLLBACK" then (.done none, { s with uncommitted := 0 })
    else if "TRUNCATE TABLE ".isPrefixOf text then (.done none, { s with rows := 0 })
    else if "SELECT COUNT(*) ".isPrefixOf text then
      match s.count with
      | .held => (.done (some s.rows), s)
      | .fixed n => (.done (some n), s)
      | .empty => (.done none, s)
    else (.done none, s)
  | _ => (.done none, s)

def send (s : Scripted) (r : Request) : Answer × Scripted :=
  if !s.listens then (.unreachable, s)
  else
    let (hit, rules) := applyRules r.text s.rules
    let s := { s with rules := rules }
    match hit with
    | some answer => (answer, s)
    | none => s.accept r

instance : Server Scripted := ⟨send⟩

end Scripted

end RowLoader.Server
