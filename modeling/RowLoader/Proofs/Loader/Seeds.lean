import Mathlib.Logic.Function.Basic
import RowLoader.Proofs.Loader.Resume

/-!
# The seeds of batches

A batch draws its words from a seed that is computed from its first offset. The factor in it has an inverse among the words, so
for every seed of a run the offsets and the seeds of batches correspond one to one.

* `batchSeed_bijective`: the offset of a batch is computed back from its seed;
* `Loader.nodup_batchSeeds`: batches that no word cuts have different offsets, hence different seeds;
* `Loader.batch_seeds_differ`: the batches of a run, over any sink.
-/

namespace RowLoader

/-! ### offsets and seeds -/

/-- The inverse, among the words, of the factor by which a seed spreads the offsets. -/
def spreadInverse : UInt64 := 0xF1DE83E19937733D

theorem spread_mul_inverse : (0x9E3779B97F4A7C15 : UInt64) * spreadInverse = 1 := by decide

/-- The first offset of the batch with a given seed. -/
def batchStartOf (seed wordSeed : UInt64) : UInt64 := (wordSeed - seed) * spreadInverse

theorem batchStartOf_batchSeed (seed start : UInt64) : batchStartOf seed (batchSeed seed start) = start := by
  unfold batchStartOf batchSeed
  rw [UInt64.add_comm, UInt64.add_sub_cancel, UInt64.mul_assoc, spread_mul_inverse, UInt64.mul_one]

theorem batchSeed_batchStartOf (seed wordSeed : UInt64) : batchSeed seed (batchStartOf seed wordSeed) = wordSeed := by
  unfold batchStartOf batchSeed
  rw [UInt64.mul_assoc, UInt64.mul_comm spreadInverse, spread_mul_inverse, UInt64.mul_one, UInt64.add_comm,
    UInt64.sub_add_cancel]

theorem batchSeed_bijective (seed : UInt64) : Function.Bijective (batchSeed seed) :=
  ⟨Function.LeftInverse.injective (batchStartOf_batchSeed seed),
    Function.RightInverse.surjective (batchSeed_batchStartOf seed)⟩

/-- At a fixed offset the seed of the run decides, and every seed of a batch comes from one. -/
theorem batchSeed_bijective_seed (start : UInt64) : Function.Bijective fun seed => batchSeed seed start := by
  constructor
  · intro seed seed' h
    exact UInt64.add_left_inj _ |>.1 h
  · intro wordSeed
    exact ⟨wordSeed - start * 0x9E3779B97F4A7C15, UInt64.sub_add_cancel _ _⟩

/-- The records of a batch that draws its words from `wordSeed`. -/
def Generator.recordsSeeded (g : Generator) (wordSeed start size : UInt64) : Except Trap (List Record) :=
  (recordsFrom g.profile g.createdAt start size.toNat 0 (Random.Keystream.ofSeed wordSeed) #[]).map Array.toList

theorem Generator.batchAt_eq_recordsSeeded (g : Generator) (start size : UInt64) :
    g.batchAt start size = g.recordsSeeded (batchSeed g.seed start) start size := rfl

/-! ### the batches of a load -/

namespace Loader

variable {σ : Type}

/-- The seed of the words of batch `i`. -/
def batchWordSeed (l : Loader σ) (i : Nat) : UInt64 := batchSeed l.generator.seed (UInt64.ofNat (l.batchStart i))

theorem eq_of_batchStart_eq {l : Loader σ} (hsize : 0 < l.batchSize.toNat) {i j : Nat} (h : l.batchStart i = l.batchStart j) :
    i = j := by
  unfold batchStart at h
  exact Nat.eq_of_mul_eq_mul_right hsize (Nat.add_left_cancel h)

/-- **Different seeds.** No two of the first `n` batches draw from the same seed, as long as their offsets are words. -/
theorem nodup_batchSeeds {l : Loader σ} (hsize : 0 < l.batchSize.toNat) {n : Nat} (hn : l.batchStart n < 2 ^ 64) :
    ((List.range n).map l.batchWordSeed).Nodup := by
  refine List.Nodup.map_on ?_ List.nodup_range
  intro i hi j hj hseeds
  have hstarts := (batchSeed_bijective l.generator.seed).1 hseeds
  have hlt : ∀ k ∈ List.range n, l.batchStart k < 2 ^ 64 := by
    intro k hk
    exact Nat.lt_of_le_of_lt (l.batchStart_mono (Nat.le_of_lt (List.mem_range.1 hk))) hn
  rw [← UInt64.toNat_inj, toNat_ofNat_of_lt (hlt i hi), toNat_ofNat_of_lt (hlt j hj)] at hstarts
  exact eq_of_batchStart_eq hsize hstarts

/-- **No two batches of a load share a seed.** Between the offsets of batches and the seeds of their words there is a one-to-one
correspondence for every seed of a run, and between the seeds of runs and those of a batch for every offset. This is the seed
from which a generator draws the words of a batch. The batches that a run hands to its sink, whatever the sink answers, draw
theirs from seeds that are all different. -/
theorem batch_seeds_differ [Sink σ] (l : Loader σ) (elapsed : Duration) (n : UInt64) :
    (∀ seed, Function.Bijective (batchSeed seed)) ∧
    (∀ start, Function.Bijective fun seed => batchSeed seed start) ∧
    (∀ (g : Generator) start size, g.batchAt start size = g.recordsSeeded (batchSeed g.seed start) start size) ∧
    ∃ (statements : List Sql.Statement) (records : Nat → List Record),
      l.runCalls elapsed n = .ok (statements.map .write) ∧
      (∀ i (hi : i < statements.length),
        l.generator.recordsSeeded (l.batchWordSeed i) (UInt64.ofNat (l.batchStart i)) l.batchSize = .ok (records i) ∧
        Sql.Statement.ofRecords l.profile.verb l.table l.profile.columns (records i) = .ok statements[i]) ∧
      ((List.range statements.length).map l.batchWordSeed).Nodup := by
  refine ⟨batchSeed_bijective, batchSeed_bijective_seed, Generator.batchAt_eq_recordsSeeded, ?_⟩
  obtain ⟨statements, o, -, hcourse, hcalls⟩ := exists_runCalls l elapsed n
  obtain ⟨records, hrecords, -⟩ := (hcourse.handedOver hcourse.batchStart_lt).exists_records
  refine ⟨statements, records, hcalls, fun i hi => ?_, ?_⟩
  · obtain ⟨hmade, hstatement⟩ := hrecords i hi
    unfold batchRecords at hmade
    rw [Generator.batchAt_eq_recordsSeeded] at hmade
    exact ⟨hmade, hstatement⟩
  · by_cases hnone : statements = []
    · rw [hnone]
      exact List.nodup_nil
    · exact nodup_batchSeeds (batchSize_pos (hcourse.target_of_ne_nil hnone)) hcourse.batchStart_lt

end Loader

end RowLoader
