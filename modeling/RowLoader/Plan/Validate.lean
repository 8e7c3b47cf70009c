import RowLoader.Failure
import RowLoader.Plan
import RowLoader.Text.Blank

/-!
# Validating plans

`LoadPlan.validate` says before anything is sent whether a plan can be carried out, and gives the first reason why not:
the table, the batch size, the placeholders of a batch, the number of rows, the range of offsets.
-/

namespace RowLoader

/-- The placeholders of a batch, capped at the greatest word. -/
def placeholders (p : Profile) (batchSize : UInt64) : Nat := min (batchSize.toNat * p.arity) 0xFFFFFFFFFFFFFFFF

def checkTarget (p : Profile) (table : String) (batchSize : UInt64) : Except Refusal Unit :=
  if Text.isBlank table then .error .blankTable
  else if batchSize = 0 then .error .zeroBatch
  else if placeholderLimit < placeholders p batchSize then
    .error (.tooManyPlaceholders batchSize (placeholders p batchSize) p.arity)
  else .ok ()

theorem placeholders_le_iff (p : Profile) (batchSize : UInt64) :
    placeholders p batchSize ≤ placeholderLimit ↔ batchSize.toNat * p.arity ≤ placeholderLimit := by
  simp only [placeholders, placeholderLimit]
  omega

theorem checkTarget_eq_ok_iff {p : Profile} {table : String} {batchSize : UInt64} :
    checkTarget p table batchSize = .ok () ↔
      Text.isBlank table = false ∧ batchSize ≠ 0 ∧ batchSize.toNat * p.arity ≤ placeholderLimit := by
  rw [← placeholders_le_iff]
  unfold checkTarget
  split
  · simp [*]
  · split
    · simp [*]
    · split <;> simp_all

namespace LoadPlan

def validate (p : LoadPlan) : Except Refusal Unit := do
  checkTarget p.profile p.table p.batchSize
  if 0x10000000000000000 ≤ p.batchCount.toNat * p.batchSize.toNat then
    .error (.tooManyRows p.batchCount p.batchSize)
  else
    (p.profile.checkSpan p.startOffset (p.batchCount * p.batchSize)).mapError .keySpace

end LoadPlan

end RowLoader
