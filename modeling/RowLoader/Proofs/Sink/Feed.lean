import RowLoader.Sink

/-!
# Feeding a sink

A sink that is handed statements one after the other. A sink that records its calls answers like the sink below it, and
keeps the statements in order.
-/

namespace RowLoader

namespace Sink

variable {σ : Type} [Sink σ]

/-- The sink after it was handed some statements in order, whatever it answered. -/
def feed (s : σ) (statements : List Sql.Statement) : σ :=
  statements.foldl (fun s statement => (Sink.write s statement).sink) s

@[simp] theorem feed_nil (s : σ) : feed s [] = s := rfl

@[simp] theorem feed_cons (s : σ) (statement : Sql.Statement) (rest : List Sql.Statement) :
    feed s (statement :: rest) = feed (Sink.write s statement).sink rest := rfl

theorem feed_append (s : σ) (front back : List Sql.Statement) : feed s (front ++ back) = feed (feed s front) back :=
  List.foldl_append

theorem feed_concat (s : σ) (statements : List Sql.Statement) (last : Sql.Statement) :
    feed s (statements ++ [last]) = (Sink.write (feed s statements) last).sink := by
  rw [feed_append, feed_cons, feed_nil]

/-- The sink accepts the statements one after the other. -/
def Accepts (s : σ) : List Sql.Statement → Prop
  | [] => True
  | statement :: rest =>
    (∃ rows, (Sink.write s statement).answer = .ok rows) ∧ Accepts (Sink.write s statement).sink rest

theorem accepts_concat {s : σ} {statements : List Sql.Statement} {last : Sql.Statement} :
    Accepts s (statements ++ [last]) ↔
      Accepts s statements ∧ ∃ rows, (Sink.write (feed s statements) last).answer = .ok rows := by
  induction statements generalizing s with
  | nil => simp [Accepts]
  | cons statement rest ih =>
    rw [List.cons_append, Accepts, Accepts, ih, feed_cons, and_assoc]

theorem feed_recording (s : Recording σ) (statements : List Sql.Statement) :
    feed s statements = ⟨feed s.sink statements, s.calls ++ (statements.map SinkCall.write).toArray⟩ := by
  induction statements generalizing s with
  | nil => simp
  | cons statement rest ih =>
    rw [feed_cons, feed_cons, ih]
    change Recording.mk _ (s.calls.push (.write statement) ++ _) = _
    rw [List.map_cons, List.toArray_cons, Array.push_eq_append, Array.append_assoc]
    rfl

end Sink

end RowLoader
