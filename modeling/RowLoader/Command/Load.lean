import RowLoader.Command.Basic
import RowLoader.Loader

/-!
# Loading a plan

The calls of a whole load, in order: clear the table if the plan says so, write the batches, count the rows if the table was
cleared, and close the sink whatever came before.
-/

namespace RowLoader

namespace Loader

variable {σ : Type} [Sink σ]

/-- Compares the rows counted with the rows written; a difference is no failure. -/
def reportCount (m : Metrics) (l : Loader σ) (log : Log) : Outcome σ (Except CommandError Metrics) :=
  let counted := l.countRows
  match counted.answer with
  | .error e => ⟨.error (.count l.table e), counted.loader, log ++ counted.log⟩
  | .ok rows =>
    let event : Event :=
      if rows = m.written then .counted l.table rows else .miscounted l.table rows m.written
    ⟨.ok m, counted.loader, log ++ counted.log |>.push event⟩

def reportAborted (a : Aborted) : Event := if a.error.precedesWriting then .refused a.error else .stopped a.metrics

/-- Everything but closing. -/
def loadTable (plan : LoadPlan) (elapsed : Duration) (l : Loader σ) :
    Except Trap (Outcome σ (Except CommandError Metrics)) :=
  let cleared : Outcome σ (Except LoadError Unit) := if plan.truncate then l.clear else ⟨.ok (), l, #[]⟩
  match cleared.answer with
  | .error e => .ok ⟨.error (.reset e), cleared.loader, cleared.log⟩
  | .ok () =>
    match cleared.loader.run elapsed plan.batchCount with
    | .error t => .error t
    | .ok ⟨.error a, l, log⟩ => .ok ⟨.error (.aborted a), l, cleared.log ++ log |>.push (reportAborted a)⟩
    | .ok ⟨.ok m, l, log⟩ =>
      .ok (if plan.truncate then l.reportCount m (cleared.log ++ log) else ⟨.ok m, l, cleared.log ++ log⟩)

/-- A failure to close is logged and does not change the answer. -/
def loadThenClose (plan : LoadPlan) (elapsed : Duration) (l : Loader σ) :
    Except Trap (Outcome σ (Except CommandError Metrics)) :=
  (l.loadTable plan elapsed).map fun loaded =>
    let closed := loaded.loader.close
    let failure : Log := match closed.answer with
      | .ok () => #[]
      | .error e => #[.closeFailed e]
    ⟨loaded.answer, closed.loader, loaded.log ++ closed.log ++ failure⟩

end Loader

end RowLoader
