import RowLoader.Command.Run
import RowLoader.Server.Scripted
import Std.Time

/-!
# The program

Prints what `runCommand` reports. No transport is linked in, so a load finds its server unreachable.
-/

namespace RowLoader

/-- The local time to the second. -/
def localTime : IO Timestamp := do
  let t ← Std.Time.PlainDateTime.now
  let known := Timestamp.ofFields? t.date.year t.date.month.val.toNat t.date.day.val.toNat t.time.hour.val.toNat
    t.time.minute.val.toNat t.time.second.val.toNat 0
  return known.getD .epoch

/-- The variables that are set, of those that matter. -/
def readEnvironment : IO CommandLine.Environment := do
  let names := CommandLine.levelVariable ::
    (CommandLine.connectionFlags ++ CommandLine.planFlags).filterMap CommandLine.ValueFlag.variable?
  names.filterMapM fun name => return (← IO.getEnv name).map fun value => (name, value)

def Line.print : Line → IO Unit
  | .log e => IO.println e.line
  | .text s => IO.println s

def unreachableServer : Server.Scripted := { listens := false }

def runProgram (arguments : List String) : IO UInt32 := do
  let env ← readEnvironment
  let moment : Moment := ⟨← localTime, .zero⟩
  match runCommand env arguments moment unreachableServer with
  | .error t =>
    IO.eprintln t.message
    return 101
  | .ok (report, _) =>
    report.output.forM Line.print
    report.errors.forM fun text => IO.eprintln text
    return report.exitCode

end RowLoader

def main (arguments : List String) : IO UInt32 := RowLoader.runProgram arguments
