/-!
# Traps

A computation over machine words may end without an answer. `addWords` and `addInts` are the sums that do so instead of
wrapping: they answer exactly when the sum in unbounded integers fits.
-/

namespace RowLoader

/-- Why a computation ends without an answer. -/
inductive Trap where
  | addOverflow
  /-- a row of `found` values for a table of `columns` columns -/
  | arityMismatch (found columns : Nat)
  deriving DecidableEq

def Trap.message : Trap → String
  | .addOverflow => "attempt to add with overflow"
  | .arityMismatch found columns =>
    s!"assertion `left == right` failed\n  left: {found}\n right: {columns}"

/-- A sequence of two steps succeeds by the success of both. -/
theorem bind_eq_ok {ε α β : Type} {x : Except ε α} {f : α → Except ε β} {b : β} (h : x >>= f = .ok b) :
    ∃ a, x = .ok a ∧ f a = .ok b := by
  cases x with
  | error e => cases h
  | ok a => exact ⟨a, rfl, h⟩

theorem map_eq_ok {ε α β : Type} {x : Except ε α} {f : α → β} {b : β} (h : x.map f = .ok b) :
    ∃ a, x = .ok a ∧ f a = b := by
  cases x with
  | error e => cases h
  | ok a => exact ⟨a, rfl, Except.ok.inj h⟩

def addWords (a b : UInt64) : Except Trap UInt64 :=
  if a.toNat + b.toNat < 0x10000000000000000 then .ok (a + b) else .error .addOverflow

theorem addWords_eq_ok_iff {a b c : UInt64} : addWords a b = .ok c ↔ c.toNat = a.toNat + b.toNat := by
  unfold addWords
  split
  · rename_i h
    rw [Except.ok.injEq, ← UInt64.toNat_inj, UInt64.toNat_add, Nat.mod_eq_of_lt h]
    exact eq_comm
  · have := c.toNat_lt
    constructor
    · intro h; cases h
    · omega

theorem addWords_eq_error_iff {a b : UInt64} {t : Trap} :
    addWords a b = .error t ↔ t = .addOverflow ∧ 0x10000000000000000 ≤ a.toNat + b.toNat := by
  unfold addWords
  split
  · constructor
    · intro h; cases h
    · omega
  · rw [Except.error.injEq]
    constructor
    · rintro rfl; exact ⟨rfl, by omega⟩
    · rintro ⟨rfl, -⟩; rfl

/-! ### sums of signed words -/

def addInts (a b : Int64) : Except Trap Int64 :=
  if -0x8000000000000000 ≤ a.toInt + b.toInt ∧ a.toInt + b.toInt < 0x8000000000000000 then .ok (a + b) else .error .addOverflow

theorem addInts_eq_ok {a b c : Int64} (h : addInts a b = .ok c) : c.toInt = a.toInt + b.toInt := by
  unfold addInts at h
  split at h
  · rename_i hs
    cases h
    rw [Int64.toInt_add]
    exact Int.bmod_eq_of_le (by omega) (by omega)
  · cases h

end RowLoader
