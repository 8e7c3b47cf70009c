import RowLoader.Random.ChaCha
import RowLoader.Record.Build

/-!
# Generators

A generator makes batches of consecutive records. `batchAt` depends on its arguments alone: every batch has a word source of
its own, seeded by the run's seed and the batch's first offset. `advance` moves an offset along so that no two of its
batches share a key.
-/

namespace RowLoader

/-! ### batches -/

/-- Each batch of a run starts its words from a seed of its own. -/
def batchSeed (seed start : UInt64) : UInt64 := seed + start * 0x9E3779B97F4A7C15

/-- The records at the `n` offsets from `start + i` on, behind those in `done`. -/
def recordsFrom {σ : Type} [WordSource σ] (p : Profile) (createdAt : Timestamp) (start : UInt64) :
    (n i : Nat) → σ → (done : Array Record) → Except Trap (Array Record)
  | 0, _, _, done => .ok done
  | n + 1, i, s, done =>
    match addWords start (UInt64.ofNat i) with
    | .error t => .error t
    | .ok offset =>
      match p.record createdAt offset s with
      | .error t => .error t
      | .ok (r, s) => recordsFrom p createdAt start n (i + 1) s (done.push r)

section

variable {σ : Type} [WordSource σ] {p : Profile} {createdAt : Timestamp} {start : UInt64}

/-- The records made so far stay in front. -/
theorem recordsFrom_append (n i : Nat) (s : σ) (front done : Array Record) :
    recordsFrom p createdAt start n i s (front ++ done) =
      (recordsFrom p createdAt start n i s done).map (front ++ ·) := by
  induction n generalizing i s done with
  | zero => rfl
  | succ n ih =>
    unfold recordsFrom
    split
    · rfl
    · split
      · rfl
      · rw [← Array.append_push, ih]

theorem size_of_recordsFrom {n i : Nat} {s : σ} {done all : Array Record}
    (h : recordsFrom p createdAt start n i s done = .ok all) : all.size = done.size + n := by
  induction n generalizing i s done with
  | zero => cases h; rfl
  | succ n ih =>
    unfold recordsFrom at h
    split at h
    · cases h
    · split at h
      · cases h
      · rw [ih h, Array.size_push]
        omega

end

structure Generator where
  profile : Profile
  seed : UInt64
  createdAt : Timestamp
  offset : UInt64

namespace Generator

def batchAt (g : Generator) (start size : UInt64) : Except Trap (List Record) :=
  (recordsFrom g.profile g.createdAt start size.toNat 0 (Random.Keystream.ofSeed (batchSeed g.seed start)) #[]).map
    Array.toList

theorem length_of_batchAt {g : Generator} {start size : UInt64} {records : List Record}
    (h : g.batchAt start size = .ok records) : records.length = size.toNat := by
  unfold batchAt at h
  obtain ⟨all, hall, rfl⟩ := map_eq_ok h
  simpa using size_of_recordsFrom hall

/-- The batch at the current offset, which moves past it. -/
def advance (g : Generator) (size : UInt64) : Except Trap (List Record × Generator) := do
  let records ← g.batchAt g.offset size
  let offset ← addWords g.offset size
  return (records, { g with offset := offset })

theorem eq_of_advance {g g' : Generator} {size : UInt64} {records : List Record}
    (h : g.advance size = .ok (records, g')) :
    g.batchAt g.offset size = .ok records ∧ g'.offset.toNat = g.offset.toNat + size.toNat ∧
      g' = { g with offset := g'.offset } := by
  obtain ⟨r, hr, h⟩ := bind_eq_ok h
  obtain ⟨o, ho, h⟩ := bind_eq_ok h
  cases h
  exact ⟨hr, addWords_eq_ok_iff.1 ho, rfl⟩

/-- The records of consecutive batches of the given sizes. -/
def advanceAll (g : Generator) : List UInt64 → Except Trap (List (List Record) × Generator)
  | [] => .ok ([], g)
  | size :: rest => do
    let (records, g) ← g.advance size
    let (more, g) ← g.advanceAll rest
    return (records :: more, g)

end Generator

end RowLoader
