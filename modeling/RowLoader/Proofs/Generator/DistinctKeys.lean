import RowLoader.Proofs.Generator.Batches

/-!
# Keys never repeat

A generator never hands out a key twice, whatever the sizes of its batches, and two generators over disjoint ranges of
offsets share no key. `Generator.Checked` is the sequence in which every batch was first checked against the key space; user
ids then increase from 1 on.
-/

namespace RowLoader

/-! ### user ids -/

namespace Profile

/-- The user ids at consecutive offsets of the key space. -/
theorem increasing_ids {start n : Nat} (hend : start + n ≤ lastOffset + 1) :
    ((List.range' start n).map fun o => Int64.ofNat (o + 1)).Pairwise (· < ·) ∧
      ∀ id ∈ (List.range' start n).map fun o => Int64.ofNat (o + 1), 0 < id := by
  have hval : ∀ o ∈ List.range' start n, (Int64.ofNat (o + 1)).toInt = o + 1 := by
    intro o ho
    have hlt := (List.mem_range'_1.1 ho).2
    unfold lastOffset at hend
    exact Int64.toInt_ofNat_of_lt (by omega)
  constructor
  · rw [List.pairwise_map]
    refine List.Pairwise.imp_of_mem (fun ho ho' hlt => ?_) (List.pairwise_lt_range' (s := start) (n := n))
    rw [Int64.lt_iff_toInt_lt, hval _ ho, hval _ ho']
    omega
  · intro id hid
    obtain ⟨o, ho, rfl⟩ := List.mem_map.1 hid
    rw [Int64.lt_iff_toInt_lt, hval o ho]
    change (0 : Int) < o + 1
    omega

theorem Rows.exists_ids {start n : Nat} {records : List Record} (h : Profile.user.Rows start n records)
    (hend : start + n ≤ lastOffset + 1) :
    ∃ ids : List Int64, records.map (·.get? 0) = ids.map (fun id => some (Value.int id)) ∧ ids.Pairwise (· < ·) ∧
      ∀ id ∈ ids, 0 < id := by
  refine ⟨(List.range' start n).map fun o => Int64.ofNat (o + 1), ?_, increasing_ids hend⟩
  have hkeys := h.keys_eq hend
  rw [List.map_map]
  exact hkeys

end Profile

/-! ### sequences of calls -/

theorem exists_of_isOk {ε α : Type} {x : Except ε α} (h : x.isOk = true) : ∃ a, x = .ok a := by
  cases x with
  | error e => cases h
  | ok a => exact ⟨a, rfl⟩

namespace Generator

/-- Before each batch of the sequence, its range was checked against the key space. -/
def Checked (g : Generator) : List UInt64 → Prop
  | [] => True
  | size :: rest => g.profile.checkSpan g.offset size = .ok () ∧
      ∀ records g', g.advance size = .ok (records, g') → g'.Checked rest

/-- Checked batches that hold records end inside the key space. -/
theorem end_le_of_checked {g g' : Generator} {sizes : List UInt64} {batches : List (List Record)} (hc : g.Checked sizes)
    (h : g.advanceAll sizes = .ok (batches, g')) :
    (sizes.map UInt64.toNat).sum = 0 ∨ g.offset.toNat + (sizes.map UInt64.toNat).sum ≤ lastOffset := by
  induction sizes generalizing g batches with
  | nil => exact Or.inl rfl
  | cons size rest ih =>
    obtain ⟨records, more, g₁, hfirst, hrest, rfl⟩ := advanceAll_cons_eq_ok h
    obtain ⟨hspan, hnext⟩ := hc
    have hoffset := (eq_of_advance hfirst).2.1
    have hend := Profile.checkSpan_eq_ok_iff.1 hspan
    rw [List.map_cons, List.sum_cons]
    rcases ih (hnext records g₁ hfirst) hrest with hzero | hle
    · exact Or.inr (by omega)
    · exact Or.inr (by omega)

/-- A sequence that ends inside the key space passes all its checks. -/
theorem checked_of_end_le {g : Generator} {sizes : List UInt64}
    (h : g.offset.toNat + (sizes.map UInt64.toNat).sum ≤ lastOffset) : g.Checked sizes := by
  induction sizes generalizing g with
  | nil => trivial
  | cons size rest ih =>
    rw [List.map_cons, List.sum_cons] at h
    refine ⟨Profile.checkSpan_eq_ok_iff.2 (by omega), fun records g' hadvance => ih ?_⟩
    rw [(eq_of_advance hadvance).2.1]
    omega

/-- **Keys never repeat.** What a sequence of batches of any sizes holds: as many records as asked for, at consecutive
offsets, with keys that are all different, also past the end of the key space. -/
theorem distinct_keys_of_advanceAll {g g' : Generator} {sizes : List UInt64} {batches : List (List Record)}
    (h : g.advanceAll sizes = .ok (batches, g')) :
    batches.map List.length = sizes.map UInt64.toNat ∧
    (∀ r ∈ batches.flatten, r.arity = g.profile.arity) ∧
    batches.flatten.map (·.offset.toNat) = List.range' g.offset.toNat (sizes.map UInt64.toNat).sum ∧
    g'.offset.toNat = g.offset.toNat + (sizes.map UInt64.toNat).sum ∧
    (∃ keys : List Value, batches.flatten.map (·.get? g.profile.keyColumn) = keys.map some ∧ keys.Nodup) ∧
    (g.profile = .user → g.Checked sizes →
      ∃ ids : List Int64, batches.flatten.map (·.get? 0) = ids.map (fun id => some (Value.int id)) ∧
        ids.Pairwise (· < ·) ∧ ∀ id ∈ ids, 0 < id) ∧
    ∀ (f f' : Generator) (sizes' : List UInt64) (batches' : List (List Record)), f.profile = g.profile →
      f.advanceAll sizes' = .ok (batches', f') →
      List.Disjoint (List.range' g.offset.toNat (sizes.map UInt64.toNat).sum)
        (List.range' f.offset.toNat (sizes'.map UInt64.toNat).sum) →
      List.Disjoint (batches.flatten.map (·.get? g.profile.keyColumn))
        (batches'.flatten.map (·.get? g.profile.keyColumn)) := by
  obtain ⟨hrows, hsizes, -, hoffset⟩ := rows_of_advanceAll h
  refine ⟨hsizes, fun r hr => (hrows.isRow r hr).arity, hrows.offsets, hoffset, ?_, ?_, ?_⟩
  · exact hrows.exists_keys
  · intro hp hc
    rw [hp] at hrows
    rcases end_le_of_checked hc h with hzero | hle
    · rw [hzero] at hrows
      rw [List.eq_nil_of_length_eq_zero hrows.length]
      exact ⟨[], rfl, List.Pairwise.nil, by simp⟩
    · exact hrows.exists_ids (by omega)
  · intro f f' sizes' batches' hp h' hd
    have hrows' := (rows_of_advanceAll h').1
    rw [hp] at hrows'
    exact hrows.disjoint_keys hrows' hd

/-- Two loads of users: one in checked batches of which one is empty, one from the middle of the words on, where ids are
negative. -/
theorem distinct_keys_of_two_loads : ∃ batches g' batches' f',
    (⟨.user, 42, .epoch, 41⟩ : Generator).advanceAll [2, 0, 1] = .ok (batches, g') ∧
    (⟨.user, 7, .epoch, 0x8000000000000000⟩ : Generator).advanceAll [2] = .ok (batches', f') ∧
    (⟨.user, 42, .epoch, 41⟩ : Generator).Checked [2, 0, 1] ∧
    (∃ ids : List Int64, batches.flatten.map (·.get? 0) = ids.map (fun id => some (Value.int id)) ∧
      ids.Pairwise (· < ·) ∧ ∀ id ∈ ids, 0 < id) ∧
    (∃ keys : List Value, batches'.flatten.map (·.get? 0) = keys.map some ∧ keys.Nodup) ∧
    List.Disjoint (batches.flatten.map (·.get? 0)) (batches'.flatten.map (·.get? 0)) := by
  let g : Generator := ⟨.user, 42, .epoch, 41⟩
  let f : Generator := ⟨.user, 7, .epoch, 0x8000000000000000⟩
  have hmade : (g.advanceAll [2, 0, 1]).isOk = true := by decide +kernel
  have hmade' : (f.advanceAll [2]).isOk = true := by decide +kernel
  obtain ⟨⟨batches, g'⟩, h⟩ := exists_of_isOk hmade
  obtain ⟨⟨batches', f'⟩, h'⟩ := exists_of_isOk hmade'
  have hc : g.Checked [2, 0, 1] := checked_of_end_le (by decide)
  have hg : g.offset.toNat + (List.map UInt64.toNat [2, 0, 1]).sum < 2 ^ 63 := by decide
  have hf : f.offset.toNat = 2 ^ 63 := by decide +kernel
  have hd : List.Disjoint (List.range' g.offset.toNat (List.map UInt64.toNat [2, 0, 1]).sum)
      (List.range' f.offset.toNat (List.map UInt64.toNat [2]).sum) := by
    intro o ho ho'
    rw [List.mem_range'_1] at ho ho'
    omega
  obtain ⟨-, -, -, -, -, hids, hdisjoint⟩ := distinct_keys_of_advanceAll h
  obtain ⟨-, -, -, -, hkeys', -, -⟩ := distinct_keys_of_advanceAll h'
  exact ⟨batches, g', batches', f', h, h', hc, hids rfl hc, hkeys', hdisjoint f f' [2] batches' rfl h' hd⟩

end Generator

end RowLoader
