import RowLoader.Proofs.Sink.Feed

/-!
# Maps of sinks

A map from the states of one sink to those of another. Where the sinks answer alike across it, what is done over the one is
what is done over the other, seen through the map. Dropping a record is such a map.

* `Sink.CarriesWrites f`: writes agree across `f`;
* `Sink.Carries f`: so do all other calls.
-/

namespace RowLoader

variable {σ τ α β : Type}

/-- The reply with its sink seen through a map. -/
def Reply.mapSink (f : σ → τ) (r : Reply σ α) : Reply τ α := ⟨r.answer, f r.sink, r.log⟩

namespace Sink

variable [Sink σ] [Sink τ]

def CarriesWrites (f : σ → τ) : Prop := ∀ s statement, write (f s) statement = (write s statement).mapSink f

theorem CarriesWrites.feed {f : σ → τ} (hf : CarriesWrites f) (s : σ) (statements : List Sql.Statement) :
    feed (f s) statements = f (feed s statements) := by
  induction statements generalizing s with
  | nil => rfl
  | cons statement rest ih =>
    rw [feed_cons, feed_cons, hf, ← ih]
    rfl

structure Carries (f : σ → τ) : Prop where
  writes : CarriesWrites f
  truncates : ∀ s table, truncate (f s) table = (truncate s table).mapSink f
  counts : ∀ s table, count (f s) table = (count s table).mapSink f
  closes : ∀ s, close (f s) = (close s).mapSink f

/-- A record changes no answer. -/
theorem carries_recording : Carries (Recording.sink : Recording σ → σ) :=
  ⟨fun _ _ => rfl, fun _ _ => rfl, fun _ _ => rfl, fun _ => rfl⟩

end Sink

end RowLoader
