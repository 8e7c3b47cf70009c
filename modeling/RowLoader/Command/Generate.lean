import RowLoader.Command.Basic
import RowLoader.CommandLine.Options
import RowLoader.Generator
import RowLoader.Record.Json

/-!
# Printing records

Records as JSON lines. They are made in the batches in which a load with the profile's batch size would make them, so the
lines are the rows such a load writes.
-/

namespace RowLoader

/-- Batches of `size` as long as they last, and the rest. -/
def chunkSizes (count size : UInt64) : List UInt64 :=
  List.replicate (count / size).toNat size ++ (if count % size = 0 then [] else [count % size])

def generateRecords (o : CommandLine.GenerateOptions) (createdAt : Timestamp) :
    Except Trap (Except CommandError Unit × List Line) :=
  let g : Generator := ⟨o.profile, o.seed, createdAt, o.startOffset⟩
  match o.profile.checkSpan o.startOffset o.count with
  | .error e => .ok (.error (.range e), [])
  | .ok () => do
    let (batches, _) ← g.advanceAll (chunkSizes o.count o.profile.batchSize)
    let lines := batches.flatten.map fun r => Line.text (r.json o.profile.columns)
    return (.ok (), .log (.generating o.count o.profile o.startOffset o.seed) :: lines)

end RowLoader
