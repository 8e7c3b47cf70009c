import RowLoader.Command.Load
import RowLoader.CommandLine.Options
import RowLoader.Server.Session

/-!
# Loading a table

Validates the plan, then either says what would be done, or connects, loads and closes. A dry run asks nothing of the server.
-/

namespace RowLoader

variable {σ : Type} [Server σ]

/-- When a command runs, and how long its load takes. -/
structure Moment where
  now : Timestamp
  elapsed : Duration

/-- What a command answers and prints, and the server after it. -/
structure Finished (σ : Type) where
  answer : Except CommandError Unit
  lines : List Line
  server : σ

def logLines (log : Log) : List Line := log.toList.map .log

/-- The plan in words, and the first record it would load. -/
def dryRun (plan : LoadPlan) (address : String) (now : Timestamp) : Except Trap Log := do
  let records ← Generator.batchAt ⟨plan.profile, plan.seed, now, 0⟩ plan.startOffset 1
  return #[.wouldLoad plan, .wouldConnect address, .wouldTruncate plan.truncate] ++
    (records.map Event.wouldStart).toArray

def connectAndLoad (settings : Connection.Settings) (plan : LoadPlan) (moment : Moment) (server : σ) :
    Except Trap (Finished σ) :=
  match Server.Session.connect server settings with
  | (.error e, server, log) => .ok ⟨.error (.connect e), logLines log, server⟩
  | (.ok session, _, log) =>
    ((Loader.ofPlan plan moment.now session).loadThenClose plan moment.elapsed).map fun loaded =>
      let lines := logLines (log ++ loaded.log)
      match loaded.answer with
      | .ok m => ⟨.ok (), lines ++ [.text m.summary], loaded.loader.sink.server⟩
      | .error e => ⟨.error e, lines, loaded.loader.sink.server⟩

def populate (o : CommandLine.LoadOptions) (moment : Moment) (server : σ) : Except Trap (Finished σ) :=
  let plan := o.plan.plan
  match plan.validate with
  | .error r => .ok ⟨.error (.invalidPlan r), [], server⟩
  | .ok () =>
    if o.plan.dryRun then
      (dryRun plan o.connection.address moment.now).map fun log => ⟨.ok (), logLines log, server⟩
    else connectAndLoad o.connection plan moment server

end RowLoader
