import Mathlib.Data.List.Nodup
import RowLoader.Generator
import RowLoader.Proofs.Record.Keys
import RowLoader.Sql.Statement

/-!
# Batches of records

What a batch holds, whatever the words it was filled from.

* `Profile.Rows p start n records`: `records` are the rows at the offsets `start, …, start + n - 1`, in order;
* `Generator.rows_of_batchAt`, `Generator.rows_of_advanceAll`: a batch, and the batches of any sequence of calls, are such
  rows from the current offset on;
* `Generator.batchAt_ok_iff`: which batches are made; `Generator.exists_batchAt`: inside the key space all are.
-/

namespace RowLoader

theorem toNat_ofNat_of_lt {n : Nat} (h : n < 2 ^ 64) : (UInt64.ofNat n).toNat = n := UInt64.toNat_ofNat_of_lt' h

/-! ### consecutive rows -/

/-- The rows at `n` consecutive offsets from `start` on. -/
structure Profile.Rows (p : Profile) (start n : Nat) (records : List Record) : Prop where
  offsets : records.map (·.offset.toNat) = List.range' start n
  isRow : ∀ r ∈ records, p.IsRow r

namespace Profile.Rows

variable {p : Profile} {start m n : Nat} {records more : List Record}

theorem nil (p : Profile) (start : Nat) : p.Rows start 0 [] := ⟨rfl, by simp⟩

theorem append (h : p.Rows start m records) (h' : p.Rows (start + m) n more) :
    p.Rows start (m + n) (records ++ more) where
  offsets := by
    rw [List.map_append, h.offsets, h'.offsets, List.range'_append_1]
  isRow r hr := (List.mem_append.1 hr).elim (h.isRow r) (h'.isRow r)

theorem length (h : p.Rows start n records) : records.length = n := by
  have hlen := congrArg List.length h.offsets
  rwa [List.length_map, List.length_range'] at hlen

theorem offset_getElem (h : p.Rows start n records) {i : Nat} (hi : i < records.length) :
    records[i].offset.toNat = start + i := by
  have hget : (records.map (·.offset.toNat))[i]? = (List.range' start n)[i]? := by rw [h.offsets]
  rw [List.getElem?_map, List.getElem?_eq_getElem hi, List.getElem?_range' (h.length ▸ hi), Nat.one_mul] at hget
  exact Option.some.inj hget

theorem mem_range (h : p.Rows start n records) {r : Record} (hr : r ∈ records) :
    r.offset.toNat ∈ List.range' start n := by
  rw [← h.offsets]
  exact List.mem_map_of_mem hr

/-- What follows from the offset of a row is told by the range of offsets. -/
theorem map_eq {α : Type} {f : Record → α} {F : Nat → α} (h : p.Rows start n records)
    (heq : ∀ r ∈ records, f r = F r.offset.toNat) : records.map f = (List.range' start n).map F := by
  rw [← h.offsets, List.map_map]
  exact List.map_congr_left heq

/-! ### their keys -/

theorem eq_of_key_eq {r r' : Record} (h : p.IsRow r) (h' : p.IsRow r') (heq : r.get? p.keyColumn = r'.get? p.keyColumn) :
    r.offset = r'.offset := by
  obtain ⟨v, hv, hget⟩ := h.key
  obtain ⟨v', hv', hget'⟩ := h'.key
  rw [hget, hget'] at heq
  cases heq
  exact Profile.key_inj hv hv'

theorem nodup_keys (h : p.Rows start n records) : (records.map (·.get? p.keyColumn)).Nodup := by
  have hoff : (records.map (·.offset.toNat)).Nodup := by
    rw [h.offsets]
    exact List.nodup_range'
  refine List.Nodup.map_on (fun r hr r' hr' heq => ?_) (List.Nodup.of_map _ hoff)
  refine List.inj_on_of_nodup_map hoff hr hr' ?_
  rw [eq_of_key_eq (h.isRow r hr) (h.isRow r' hr') heq]

theorem disjoint_keys {start' n' : Nat} {records' : List Record} (h : p.Rows start n records)
    (h' : p.Rows start' n' records') (hd : List.Disjoint (List.range' start n) (List.range' start' n')) :
    List.Disjoint (records.map (·.get? p.keyColumn)) (records'.map (·.get? p.keyColumn)) := by
  intro v hv hv'
  obtain ⟨r, hr, rfl⟩ := List.mem_map.1 hv
  obtain ⟨r', hr', heq⟩ := List.mem_map.1 hv'
  refine hd (h.mem_range hr) ?_
  rw [← eq_of_key_eq (h'.isRow r' hr') (h.isRow r hr) heq]
  exact h'.mem_range hr'

theorem exists_keys (h : p.Rows start n records) :
    ∃ keys : List Value, records.map (·.get? p.keyColumn) = keys.map some ∧ keys.Nodup := by
  have hsome : ∀ v ∈ records.map (·.get? p.keyColumn), v.isSome := by
    intro v hv
    obtain ⟨r, hr, rfl⟩ := List.mem_map.1 hv
    obtain ⟨w, -, hget⟩ := (h.isRow r hr).key
    rw [hget]
    rfl
  have hkeys : ((records.map (·.get? p.keyColumn)).pmap Option.get hsome).map some = records.map (·.get? p.keyColumn) := by
    simp only [List.map_pmap, Option.some_get, List.pmap_eq_map, List.map_id']
  refine ⟨_, hkeys.symm, List.Nodup.of_map some ?_⟩
  rw [hkeys]
  exact h.nodup_keys

/-- Inside the key space the keys are those of the consecutive offsets. -/
theorem keys_eq (h : p.Rows start n records) (hend : start + n ≤ lastOffset + 1) :
    records.map (·.get? p.keyColumn) = (List.range' start n).map fun o => some (p.keyAt o) := by
  refine h.map_eq fun r hr => ?_
  have hmem := List.mem_range'_1.1 (h.mem_range hr)
  obtain ⟨v, hv, hget⟩ := (h.isRow r hr).key
  rw [Profile.key_eq_keyAt (by omega)] at hv
  cases hv
  exact hget

/-! ### their statement -/

theorem ofRecords (h : p.Rows start n records) (verb : WriteVerb) (table : String) :
    Sql.Statement.ofRecords verb table p.columns records =
      .ok ⟨Sql.batchText verb table p.columns n, Sql.parametersOf records, n⟩ := by
  have harity : Sql.checkArity p.columns.length records = .ok () :=
    Sql.checkArity_eq_ok_iff.2 fun r hr => (h.isRow r hr).arity
  unfold Sql.Statement.ofRecords
  rw [harity, ← h.length]
  rfl

theorem length_parametersOf (h : p.Rows start n records) : (Sql.parametersOf records).length = n * p.arity := by
  rw [Sql.length_parametersOf fun r hr => (h.isRow r hr).arity, h.length]

end Profile.Rows

/-! ### making a batch -/

section

variable {σ : Type} [WordSource σ] {p : Profile} {createdAt : Timestamp} {start : UInt64}

/-- The numbers of a batch's records are words, as its size is one. -/
theorem addWords_ofNat_eq_ok_iff {o : UInt64} {i : Nat} (hi : i < 2 ^ 64) :
    addWords start (UInt64.ofNat i) = .ok o ↔ o.toNat = start.toNat + i := by
  rw [addWords_eq_ok_iff, toNat_ofNat_of_lt hi]

theorem rows_of_recordsFrom {n i : Nat} {s : σ} {done all : Array Record} (hn : i + n ≤ 2 ^ 64)
    (h : recordsFrom p createdAt start n i s done = .ok all) :
    ∃ rest, all.toList = done.toList ++ rest ∧ p.Rows (start.toNat + i) n rest := by
  induction n generalizing i s done with
  | zero =>
    cases h
    exact ⟨[], by simp, Profile.Rows.nil _ _⟩
  | succ n ih =>
    unfold recordsFrom at h
    split at h
    · cases h
    · rename_i o ho
      split at h
      · cases h
      · rename_i r s' hr
        obtain ⟨rest, hall, hrest⟩ := ih (by omega) h
        obtain ⟨hoff, hrow⟩ := Profile.isRow_of_record hr
        have ho := (addWords_ofNat_eq_ok_iff (by omega)).1 ho
        have hhead : p.Rows (start.toNat + i) 1 [r] :=
          ⟨by simp [hoff, ho], by simpa using hrow⟩
        have htail : p.Rows (start.toNat + i) (1 + n) ([r] ++ rest) := hhead.append (by rwa [Nat.add_assoc])
        rw [Nat.add_comm 1 n] at htail
        exact ⟨r :: rest, by simp [hall], htail⟩

/-- Records are made up to the first number without a row. -/
theorem recordsFrom_ok_iff {n i : Nat} {s : σ} {done : Array Record} (hn : i + n ≤ 2 ^ 64) :
    (∃ all, recordsFrom p createdAt start n i s done = .ok all) ↔ ∀ j < n, ¬ p.Overflows (start.toNat + i + j) := by
  induction n generalizing i s done with
  | zero =>
    constructor
    · intro _ j hj
      omega
    · intro _
      exact ⟨done, rfl⟩
  | succ n ih =>
    unfold recordsFrom
    split
    · -- the first of the numbers is no word
      rename_i t ht
      have hlarge := (addWords_eq_error_iff.1 ht).2
      rw [toNat_ofNat_of_lt (by omega)] at hlarge
      constructor
      · rintro ⟨all, h⟩
        cases h
      · intro h
        exact absurd (Profile.overflows_of_le hlarge) (h 0 (Nat.succ_pos n))
    · rename_i o ho
      have ho := (addWords_ofNat_eq_ok_iff (by omega)).1 ho
      have hrow : (∃ q, p.record createdAt o s = .ok q) ↔ ¬ p.Overflows (start.toNat + i) := by
        rw [Profile.record_ok_iff, ← ho, Profile.overflows_toNat_iff, not_not]
      split
      · rename_i t ht
        rw [ht] at hrow
        constructor
        · rintro ⟨all, h⟩
          cases h
        · intro h
          obtain ⟨q, hq⟩ := hrow.2 (h 0 (Nat.succ_pos n))
          cases hq
      · rename_i r s' hr
        rw [ih (by omega)]
        constructor
        · intro h j hj
          cases j with
          | zero => exact hrow.1 ⟨(r, s'), hr⟩
          | succ j =>
            have hnext := h j (by omega)
            rwa [← Nat.add_assoc, Nat.add_right_comm _ 1 j] at hnext
        · intro h j hj
          have hnext := h (j + 1) (by omega)
          rwa [← Nat.add_assoc _ j 1, Nat.add_right_comm _ j 1] at hnext

end

namespace Generator

variable {g g' : Generator}

theorem rows_of_batchAt {start size : UInt64} {records : List Record} (h : g.batchAt start size = .ok records) :
    g.profile.Rows start.toNat size.toNat records := by
  unfold batchAt at h
  obtain ⟨all, hall, rfl⟩ := map_eq_ok h
  obtain ⟨rest, hrest, hrows⟩ := rows_of_recordsFrom (by have := size.toNat_lt; omega) hall
  simpa [hrest] using hrows

theorem batchAt_ok_iff {start size : UInt64} :
    (∃ records, g.batchAt start size = .ok records) ↔ ∀ i < size.toNat, ¬ g.profile.Overflows (start.toNat + i) := by
  have hlt := size.toNat_lt
  have hmade : (∃ all, recordsFrom g.profile g.createdAt start size.toNat 0
      (Random.Keystream.ofSeed (batchSeed g.seed start)) #[] = .ok all) ↔
      ∀ i < size.toNat, ¬ g.profile.Overflows (start.toNat + 0 + i) := recordsFrom_ok_iff (by omega)
  rw [Nat.add_zero] at hmade
  rw [← hmade]
  unfold batchAt
  constructor
  · rintro ⟨records, h⟩
    obtain ⟨all, hall, -⟩ := map_eq_ok h
    exact ⟨all, hall⟩
  · rintro ⟨all, hall⟩
    rw [hall]
    exact ⟨all.toList, rfl⟩

/-- A batch inside the key space is made. -/
theorem exists_batchAt {start size : UInt64} (h : g.profile.checkSpan start size = .ok ()) :
    ∃ records, g.batchAt start size = .ok records := by
  have hend := Profile.checkSpan_eq_ok_iff.1 h
  exact batchAt_ok_iff.2 fun i hi => Profile.not_overflows_of_le (by omega)

/-- So is the next batch, and the offset moves past it. -/
theorem exists_advance {size : UInt64} (h : g.profile.checkSpan g.offset size = .ok ()) :
    ∃ records, g.batchAt g.offset size = .ok records ∧
      g.advance size = .ok (records, { g with offset := g.offset + size }) := by
  obtain ⟨records, hrecords⟩ := exists_batchAt h
  have hend := Profile.checkSpan_eq_ok_iff.1 h
  have hlast : lastOffset < 2 ^ 64 := by decide
  have hsum : addWords g.offset size = .ok (g.offset + size) := if_pos (by omega)
  refine ⟨records, hrecords, ?_⟩
  unfold advance
  rw [hrecords]
  simp only [bind, Except.bind, hsum]
  rfl

/-! ### sequences of batches -/

theorem advanceAll_cons_eq_ok {size : UInt64} {rest : List UInt64} {batches : List (List Record)}
    (h : g.advanceAll (size :: rest) = .ok (batches, g')) :
    ∃ records more g₁, g.advance size = .ok (records, g₁) ∧ g₁.advanceAll rest = .ok (more, g') ∧
      batches = records :: more := by
  obtain ⟨⟨records, g₁⟩, hfirst, h⟩ := bind_eq_ok h
  obtain ⟨⟨more, g₂⟩, hrest, h⟩ := bind_eq_ok h
  cases h
  exact ⟨records, more, g₁, hfirst, hrest, rfl⟩

theorem profile_of_advance {size : UInt64} {records : List Record} (h : g.advance size = .ok (records, g')) :
    g'.profile = g.profile := by
  rw [(eq_of_advance h).2.2]

/-- The batches of a sequence of calls lie one behind the other, and the offset ends behind the last. -/
theorem rows_of_advanceAll {sizes : List UInt64} {batches : List (List Record)}
    (h : g.advanceAll sizes = .ok (batches, g')) :
    g.profile.Rows g.offset.toNat (sizes.map UInt64.toNat).sum batches.flatten ∧
      batches.map List.length = sizes.map UInt64.toNat ∧
      g'.profile = g.profile ∧ g'.offset.toNat = g.offset.toNat + (sizes.map UInt64.toNat).sum := by
  induction sizes generalizing g batches with
  | nil =>
    cases h
    exact ⟨Profile.Rows.nil _ _, rfl, rfl, rfl⟩
  | cons size rest ih =>
    obtain ⟨records, more, g₁, hfirst, hrest, rfl⟩ := advanceAll_cons_eq_ok h
    obtain ⟨hbatch, hoffset, -⟩ := eq_of_advance hfirst
    have hprofile := profile_of_advance hfirst
    have hrows := rows_of_batchAt hbatch
    obtain ⟨hmore, hsizes, hprofile', hoffset'⟩ := ih hrest
    rw [hprofile, hoffset] at hmore
    refine ⟨hrows.append hmore, ?_, hprofile'.trans hprofile, ?_⟩
    · rw [List.map_cons, List.map_cons, hrows.length, hsizes]
    · rw [hoffset', hoffset, List.map_cons, List.sum_cons]
      omega

end Generator

end RowLoader
