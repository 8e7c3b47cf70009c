import Mathlib.Algebra.Group.Int.Defs
import Mathlib.Algebra.Group.Nat.Defs
import RowLoader.Plan.Validate

/-!
# What validation accepts

A plan is valid if its target is, and if its last offset, in unbounded numbers, lies in the key space. Products that leave
the words are never valid.
-/

namespace RowLoader

theorem toNat_mul_of_lt {a b : UInt64} (h : a.toNat * b.toNat < 2 ^ 64) : (a * b).toNat = a.toNat * b.toNat := by
  rw [UInt64.toNat_mul, Nat.mod_eq_of_lt h]

namespace LoadPlan

/-- The offset behind the last record of the plan, in unbounded numbers. -/
def lastEnd (p : LoadPlan) : Nat := p.startOffset.toNat + p.batchCount.toNat * p.batchSize.toNat

theorem validate_eq_ok_iff {p : LoadPlan} :
    p.validate = .ok () ↔ checkTarget p.profile p.table p.batchSize = .ok () ∧ p.lastEnd ≤ lastOffset := by
  have hlast : lastOffset < 2 ^ 64 := by decide
  unfold validate lastEnd
  cases checkTarget p.profile p.table p.batchSize with
  | error r =>
    constructor
    · intro h
      cases h
    · rintro ⟨h, -⟩
      cases h
  | ok =>
    change (if _ then _ else _) = _ ↔ _
    split
    · rename_i hlarge
      constructor
      · intro h
        cases h
      · rintro ⟨-, h⟩
        omega
    · rename_i hsmall
      have hspan : p.profile.checkSpan p.startOffset (p.batchCount * p.batchSize) = .ok () ↔
        p.startOffset.toNat + (p.batchCount * p.batchSize).toNat ≤ lastOffset := Profile.checkSpan_eq_ok_iff
      rw [toNat_mul_of_lt (by omega)] at hspan
      rw [← hspan]
      cases p.profile.checkSpan p.startOffset (p.batchCount * p.batchSize) with
      | error e =>
        constructor
        · intro h
          cases h
        · rintro ⟨-, h⟩
          cases h
      | ok => exact ⟨fun _ => ⟨rfl, rfl⟩, fun _ => rfl⟩

/-- The number of rows of a valid plan is not capped. -/
theorem rows_of_validate {p : LoadPlan} (h : p.validate = .ok ()) :
    p.rows = UInt64.ofNat (p.batchCount.toNat * p.batchSize.toNat) ∧
      p.rows.toNat = p.batchCount.toNat * p.batchSize.toNat := by
  obtain ⟨-, hend⟩ := validate_eq_ok_iff.1 h
  unfold lastEnd lastOffset at hend
  have hexact : p.rows.toNat = p.batchCount.toNat * p.batchSize.toNat := by
    rw [toNat_rows]
    omega
  refine ⟨?_, hexact⟩
  rw [← hexact, UInt64.ofNat_toNat]

end LoadPlan

end RowLoader
