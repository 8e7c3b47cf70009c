import RowLoader.Command.Generate
import RowLoader.Proofs.Generator.Batches

/-!
# Shorter batches

A batch is the beginning of every longer one from the same offset, although all its records draw from one source of words. So
batches of one size and a rest make the same records as whole batches only.

* `Generator.batchAt_of_le`: the beginning of a batch that is made is made, as a batch of its own;
* `Generator.exists_advanceAll`: batches that end inside the key space are made;
* `Generator.prefix_of_chunks`: batches of one size with a rest behind them, against whole batches.
-/

namespace RowLoader

/-! ### records -/

section

variable {σ : Type} [WordSource σ] {p : Profile} {createdAt : Timestamp} {start : UInt64}

theorem done_prefix_of_recordsFrom {n i : Nat} {s : σ} {done all : Array Record}
    (h : recordsFrom p createdAt start n i s done = .ok all) : done.toList <+: all.toList := by
  have happend : recordsFrom p createdAt start n i s (done ++ #[]) =
    (recordsFrom p createdAt start n i s #[]).map (done ++ ·) := recordsFrom_append n i s done #[]
  rw [Array.append_empty, h] at happend
  obtain ⟨rest, -, rfl⟩ := map_eq_ok happend.symm
  rw [Array.toList_append]
  exact List.prefix_append _ _

/-- Making fewer records stops earlier on the same way. -/
theorem exists_prefix_of_recordsFrom {n m i : Nat} {s : σ} {done all : Array Record} (hle : n ≤ m)
    (h : recordsFrom p createdAt start m i s done = .ok all) :
    ∃ front, recordsFrom p createdAt start n i s done = .ok front ∧ front.toList <+: all.toList := by
  induction n generalizing m i s done with
  | zero => exact ⟨done, rfl, done_prefix_of_recordsFrom h⟩
  | succ n ih =>
    obtain ⟨m, rfl⟩ : ∃ k, m = k + 1 := ⟨m - 1, by omega⟩
    unfold recordsFrom at h ⊢
    split at h
    · cases h
    · split at h
      · cases h
      · exact ih (by omega) h

end

namespace Generator

variable {g g' : Generator}

/-! ### batches -/

/-- **A batch begins every longer one.** -/
theorem batchAt_of_le {start size size' : UInt64} {records : List Record} (hle : size.toNat ≤ size'.toNat)
    (h : g.batchAt start size' = .ok records) : g.batchAt start size = .ok (records.take size.toNat) := by
  unfold batchAt at h
  obtain ⟨all, hall, rfl⟩ := map_eq_ok h
  obtain ⟨front, hfront, hbegins⟩ := exists_prefix_of_recordsFrom hle hall
  have hmade : g.batchAt start size = .ok front.toList := by
    unfold batchAt
    rw [hfront]
    rfl
  rw [hmade, ← length_of_batchAt hmade, ← List.prefix_iff_eq_take.1 hbegins]

/-! ### sequences of batches -/

/-- Batches that end inside the key space are made. -/
theorem exists_advanceAll {sizes : List UInt64} (h : g.offset.toNat + (sizes.map UInt64.toNat).sum ≤ lastOffset) :
    ∃ batches g', g.advanceAll sizes = .ok (batches, g') := by
  induction sizes generalizing g with
  | nil => exact ⟨[], g, rfl⟩
  | cons size rest ih =>
    rw [List.map_cons, List.sum_cons] at h
    have hspan : g.profile.checkSpan g.offset size = .ok () := Profile.checkSpan_eq_ok_iff.2 (by omega)
    obtain ⟨records, -, hfirst⟩ := exists_advance hspan
    have hoffset := (eq_of_advance hfirst).2.1
    obtain ⟨more, g', hrest⟩ := ih (g := { g with offset := g.offset + size }) (by omega)
    refine ⟨records :: more, g', ?_⟩
    simp only [advanceAll, hfirst, hrest, bind, Except.bind]
    rfl

/-- Batches of one size and at most one more, not larger, against the first batches of that size: the shorter of the two is the
beginning of the longer. -/
theorem prefix_of_chunks {size : UInt64} {k : Nat} {rest : List UInt64} {batches : List (List Record)}
    (hrest : rest = [] ∨ ∃ last, rest = [last] ∧ last.toNat ≤ size.toNat)
    (h : g.advanceAll (List.replicate k size ++ rest) = .ok (batches, g')) {n : Nat} {records : Nat → List Record}
    (hrecords : ∀ i < n, g.batchAt (UInt64.ofNat (g.offset.toNat + i * size.toNat)) size = .ok (records i)) :
    batches.flatten <+: (List.range n).flatMap records ∨ (List.range n).flatMap records <+: batches.flatten := by
  induction k generalizing g batches n records with
  | zero =>
    rw [List.replicate_zero, List.nil_append] at h
    cases n with
    | zero => exact Or.inr List.nil_prefix
    | succ n =>
      refine Or.inl ?_
      rcases hrest with rfl | ⟨last, rfl, hle⟩
      · cases h
        exact List.nil_prefix
      · obtain ⟨front, more, g₁, hfirst, hnone, rfl⟩ := advanceAll_cons_eq_ok h
        cases hnone
        -- the rest is the beginning of the next whole batch
        have hwhole := hrecords 0 (Nat.succ_pos n)
        rw [Nat.zero_mul, Nat.add_zero, UInt64.ofNat_toNat] at hwhole
        cases (eq_of_advance hfirst).1.symm.trans (batchAt_of_le hle hwhole)
        rw [List.range_succ_eq_map, List.flatMap_cons, List.flatten_singleton]
        exact (List.take_prefix _ _).trans (List.prefix_append _ _)
  | succ k ih =>
    rw [List.replicate_succ, List.cons_append] at h
    cases n with
    | zero => exact Or.inr List.nil_prefix
    | succ n =>
      obtain ⟨front, more, g₁, hfirst, hmore, rfl⟩ := advanceAll_cons_eq_ok h
      obtain ⟨hfront, hoffset, hg₁⟩ := eq_of_advance hfirst
      have hwhole := hrecords 0 (Nat.succ_pos n)
      rw [Nat.zero_mul, Nat.add_zero, UInt64.ofNat_toNat] at hwhole
      cases hfront.symm.trans hwhole
      have hnext : ∀ i < n, g₁.batchAt (UInt64.ofNat (g₁.offset.toNat + i * size.toNat)) size = .ok (records (i + 1)) := by
        intro i hi
        have hbatch := hrecords (i + 1) (Nat.succ_lt_succ hi)
        rw [Nat.succ_mul, Nat.add_comm (i * size.toNat), ← Nat.add_assoc, ← hoffset] at hbatch
        rw [hg₁]
        exact hbatch
      rw [List.range_succ_eq_map, List.flatMap_cons, List.flatMap_map, List.flatten_cons, List.prefix_append_right_inj,
        List.prefix_append_right_inj]
      exact ih hmore hnext

end Generator

/-! ### the batches of a command -/

theorem sum_chunkSizes (count size : UInt64) : ((chunkSizes count size).map UInt64.toNat).sum = count.toNat := by
  have hdiv := Nat.div_add_mod count.toNat size.toNat
  have hrest : ((if count % size = 0 then [] else [count % size]).map UInt64.toNat).sum = count.toNat % size.toNat := by
    split
    · rename_i hzero
      have hmod := congrArg UInt64.toNat hzero
      rw [UInt64.toNat_mod] at hmod
      exact hmod.symm
    · simp [UInt64.toNat_mod]
  unfold chunkSizes
  rw [List.map_append, List.sum_append, hrest, List.map_replicate, List.sum_replicate_nat, UInt64.toNat_div, Nat.mul_comm]
  exact hdiv

end RowLoader
