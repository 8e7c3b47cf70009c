import RowLoader.Log

/-!
# Commands

What a command prints, and what ends it: a failure together with the step at which it came up.
-/

namespace RowLoader

/-- What a command prints: log events, and lines of its own. -/
inductive Line where
  | log (e : Event)
  | text (s : String)

inductive CommandError where
  | invalidPlan (r : Refusal)
  | connect (e : LoadError)
  | reset (e : LoadError)
  | aborted (a : Aborted)
  | count (table : String) (e : LoadError)
  | range (e : KeySpaceOverflow)
  deriving DecidableEq

namespace CommandError

/-- The step, the failure, and what lies below it. -/
def chain : CommandError → List String
  | invalidPlan r => ["Invalid populate settings", (LoadError.config r).message]
  | connect e => "Failed to connect to MySQL" :: e.message :: e.sources
  | reset e => "Refusing to load into a table in unknown state" :: e.message :: e.sources
  | aborted a => [a.message]
  | count table e => s!"Failed to count rows in '{table}'" :: e.message :: e.sources
  | range e => ["Invalid record range", e.message]

def message (e : CommandError) : String := ": ".intercalate e.chain

end CommandError

end RowLoader
