import RowLoader.Proofs.Generator.FixedColumns
import RowLoader.Proofs.Loader.Validated

/-!
# The rows of a load

Which rows a load writes follows from the profile, the first offset and the number of rows. Neither the seed nor the batches they
come in matter, so a load that is done again in other batches meets the rows of the first.

* `Loader.fixes_of_batches`, `LoadPlan.exists_rows`: the records of a load;
* `rows_independent_of_batching`: two sequences of batches, and two loads.
-/

namespace RowLoader

namespace Loader

variable {σ : Type} {l : Loader σ}

theorem fixes_of_batches {n : Nat} {records : Nat → List Record} (hend : l.batchStart n ≤ lastOffset)
    (made : ∀ i < n, l.batchRecords i = .ok (records i)) :
    ∀ r ∈ (List.range n).flatMap records, l.profile.Fixes l.generator.createdAt r := by
  have hlast : lastOffset < 2 ^ 64 := by decide
  intro r hr
  obtain ⟨i, hi, hr⟩ := List.mem_flatMap.1 hr
  have hi := List.mem_range.1 hi
  have hle : l.batchStart i + l.batchSize.toNat ≤ lastOffset := by
    rw [← batchStart_succ]
    exact Nat.le_trans (l.batchStart_mono hi) hend
  have hbatch : l.generator.batchAt (UInt64.ofNat (l.batchStart i)) l.batchSize = .ok (records i) := made i hi
  have hstart : (UInt64.ofNat (l.batchStart i)).toNat = l.batchStart i := toNat_ofNat_of_lt (by omega)
  exact Generator.fixes_of_batchAt hbatch (by rwa [hstart]) r hr

end Loader

/-- The records of a valid plan's batches. -/
theorem LoadPlan.exists_rows {plan : LoadPlan} (hvalid : plan.validate = .ok ()) (createdAt : Timestamp) :
    ∃ records : Nat → List Record,
      (∀ i < plan.batchCount.toNat, (Loader.ofPlan plan createdAt ()).batchRecords i = .ok (records i)) ∧
      plan.profile.Rows plan.startOffset.toNat (plan.batchCount.toNat * plan.batchSize.toNat)
        ((List.range plan.batchCount.toNat).flatMap records) ∧
      ∀ r ∈ (List.range plan.batchCount.toNat).flatMap records, plan.profile.Fixes createdAt r := by
  obtain ⟨-, hend⟩ := LoadPlan.validate_eq_ok_iff.1 hvalid
  have hinside : (Loader.ofPlan plan createdAt ()).batchStart plan.batchCount.toNat ≤ lastOffset := hend
  obtain ⟨records, hrecords⟩ := Loader.exists_records hinside
  exact ⟨records, hrecords, Loader.rows_of_batches hinside hrecords, Loader.fixes_of_batches hinside hrecords⟩

/-- **Batching does not show in the rows.** Two sequences of batches with the same offsets in all, of any sizes and from any seeds,
hold the same devices, and users with the same ids, phone numbers and time of creation. So do two loads of as many rows from the
same offset on. -/
theorem rows_independent_of_batching :
    (∀ (g f : Generator) (sizes sizes' : List UInt64), f.profile = g.profile → f.offset = g.offset →
      (sizes'.map UInt64.toNat).sum = (sizes.map UInt64.toNat).sum →
      g.offset.toNat + (sizes.map UInt64.toNat).sum ≤ lastOffset →
      ∃ batches g' batches' f', g.advanceAll sizes = .ok (batches, g') ∧ f.advanceAll sizes' = .ok (batches', f') ∧
        batches.flatten.length = (sizes.map UInt64.toNat).sum ∧
        g.profile.SameRows g.createdAt f.createdAt batches.flatten batches'.flatten) ∧
    ∀ (plan plan' : LoadPlan) (createdAt createdAt' : Timestamp), plan.validate = .ok () → plan'.validate = .ok () →
      plan'.profile = plan.profile → plan'.startOffset = plan.startOffset →
      plan'.batchCount.toNat * plan'.batchSize.toNat = plan.batchCount.toNat * plan.batchSize.toNat →
      ∃ records records' : Nat → List Record,
        (∀ i < plan.batchCount.toNat, (Loader.ofPlan plan createdAt ()).batchRecords i = .ok (records i)) ∧
        (∀ i < plan'.batchCount.toNat, (Loader.ofPlan plan' createdAt' ()).batchRecords i = .ok (records' i)) ∧
        plan.profile.SameRows createdAt createdAt' ((List.range plan.batchCount.toNat).flatMap records)
          ((List.range plan'.batchCount.toNat).flatMap records') := by
  constructor
  · intro g f sizes sizes' hprofile hoffset hcount hend
    have hend' : f.offset.toNat + (sizes'.map UInt64.toNat).sum ≤ lastOffset := by rwa [hoffset, hcount]
    obtain ⟨batches, g', hbatches⟩ := Generator.exists_advanceAll hend
    obtain ⟨batches', f', hbatches'⟩ := Generator.exists_advanceAll hend'
    have hrows := (Generator.rows_of_advanceAll hbatches).1
    have hrows' := (Generator.rows_of_advanceAll hbatches').1
    have hfixes := Generator.fixes_of_advanceAll hbatches hend
    have hfixes' := Generator.fixes_of_advanceAll hbatches' hend'
    rw [hprofile, hoffset, hcount] at hrows'
    rw [hprofile] at hfixes'
    exact ⟨batches, g', batches', f', hbatches, hbatches', hrows.length,
      Profile.sameRows_of_fixes hrows hrows' hend hfixes hfixes'⟩
  · intro plan plan' createdAt createdAt' hvalid hvalid' hprofile hstart hcount
    obtain ⟨records, hrecords, hrows, hfixes⟩ := LoadPlan.exists_rows hvalid createdAt
    obtain ⟨records', hrecords', hrows', hfixes'⟩ := LoadPlan.exists_rows hvalid' createdAt'
    have hend := (LoadPlan.validate_eq_ok_iff.1 hvalid).2
    rw [hprofile, hstart, hcount] at hrows'
    rw [hprofile] at hfixes'
    exact ⟨records, records', hrecords, hrecords', Profile.sameRows_of_fixes hrows hrows' hend hfixes hfixes'⟩

/-- Three users in two batches and an empty one, and in one batch from another seed; and the user plan in batches of ten times the
size. -/
theorem rows_independent_of_batching_of_users :
    (∃ batches g' batches' f', (⟨.user, 42, .epoch, 41⟩ : Generator).advanceAll [2, 0, 1] = .ok (batches, g') ∧
      (⟨.user, 7, .epoch, 41⟩ : Generator).advanceAll [3] = .ok (batches', f') ∧ batches.flatten.length = 3 ∧
      batches'.flatten.map (·.get? 5) = batches.flatten.map (·.get? 5)) ∧
    ∃ records records' : Nat → List Record,
      (∀ i < 1000000, (Loader.ofPlan (.ofProfile .user) .epoch ()).batchRecords i = .ok (records i)) ∧
      (∀ i < 100000, (Loader.ofPlan { LoadPlan.ofProfile .user with batchSize := 1000, batchCount := 100000, seed := 7 }
        .epoch ()).batchRecords i = .ok (records' i)) ∧
      ((List.range 100000).flatMap records').map (·.get? 0) = ((List.range 1000000).flatMap records).map (·.get? 0) := by
  obtain ⟨hbatches, hloads⟩ := rows_independent_of_batching
  constructor
  · obtain ⟨batches, g', batches', f', h, h', hlength, hsame⟩ :=
      hbatches ⟨.user, 42, .epoch, 41⟩ ⟨.user, 7, .epoch, 41⟩ [2, 0, 1] [3] rfl rfl rfl (by decide)
    exact ⟨batches, g', batches', f', h, h', hlength, hsame.users rfl rfl 5 (by decide)⟩
  · obtain ⟨records, records', hrecords, hrecords', hsame⟩ :=
      hloads (.ofProfile .user) { LoadPlan.ofProfile .user with batchSize := 1000, batchCount := 100000, seed := 7 }
        .epoch .epoch (by decide +kernel) (by decide +kernel) rfl rfl (by decide +kernel)
    exact ⟨records, records', hrecords, hrecords', hsame.users rfl rfl 0 (by decide)⟩

end RowLoader
