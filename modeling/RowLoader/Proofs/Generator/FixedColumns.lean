import RowLoader.Proofs.Generator.Chunks
import RowLoader.Proofs.Record.Users

/-!
# What no seed changes

All of a device row follows from its offset; of a user row the id, the phone number and the time of creation do not depend on the
words. So the rows of a range of offsets agree in all this, in whatever batches and from whatever seeds they are made.

* `deviceAt`, `fixedAt`: what a row says apart from what is drawn for it;
* `Generator.fixes_of_advanceAll`: the rows of a sequence of batches say so;
* `Profile.SameRows`, `Profile.sameRows_of_fixes`: two lists of rows for the same offsets.
-/

namespace RowLoader

/-! ### rows -/

/-- The device at an offset of the key space. -/
def deviceAt (offset : Nat) : Record :=
  ⟨UInt64.ofNat offset, thingValues ("WDDUX5268F" ++ (1000000 + offset).repr)⟩

/-- The columns of a user that hold nothing drawn. -/
def fixedColumns : List Nat := [0, 5, 8]

example : fixedColumns.map (Profile.user.columns[·]?) = [some "id", some "phone", some "create_time"] := by decide

/-- What they hold at an offset of the key space. -/
def fixedAt (createdAt : Timestamp) (offset : Nat) : Nat → Option Value
  | 0 => some (.int (Int64.ofNat (offset + 1)))
  | 5 => some (.int (Int64.ofNat (13100000001 + offset)))
  | 8 => some (.timestamp createdAt)
  | _ => none

/-- A row says what is fixed for its offset. -/
def Profile.Fixes (createdAt : Timestamp) (r : Record) : Profile → Prop
  | .thing => r = deviceAt r.offset.toNat
  | .user => ∀ column ∈ fixedColumns, r.get? column = fixedAt createdAt r.offset.toNat column

section

variable {σ : Type} [WordSource σ] {p : Profile} {createdAt : Timestamp} {start : UInt64}

theorem fixes_of_record {o : UInt64} {r : Record} {s s' : σ} (h : p.record createdAt o s = .ok (r, s'))
    (hle : o.toNat ≤ lastOffset) : p.Fixes createdAt r := by
  cases p with
  | thing =>
    simp only [Profile.record, thingRecord, thingKey_of_le hle, Except.map, Except.ok.injEq, Prod.mk.injEq] at h
    obtain ⟨rfl, -⟩ := h
    simp only [Profile.Fixes, deviceAt, UInt64.ofNat_toNat]
  | user =>
    simp only [Profile.record, userRecord_of_le hle, Except.map, Except.ok.injEq, Prod.mk.injEq] at h
    obtain ⟨rfl, -⟩ := h
    intro column hcolumn
    simp only [fixedColumns, List.mem_cons, List.not_mem_nil, or_false] at hcolumn
    rcases hcolumn with rfl | rfl | rfl <;> rfl

/-- Each record comes from some state of the words. -/
theorem record_of_mem_recordsFrom {n i : Nat} {s : σ} {done all : Array Record} {r : Record}
    (h : recordsFrom p createdAt start n i s done = .ok all) (hr : r ∈ all) :
    r ∈ done ∨ ∃ s s' : σ, p.record createdAt r.offset s = .ok (r, s') := by
  induction n generalizing i s done with
  | zero =>
    cases h
    exact Or.inl hr
  | succ n ih =>
    unfold recordsFrom at h
    split at h
    · cases h
    · split at h
      · cases h
      · rename_i made s' hmade
        rcases ih h with hdone | hfound
        · rcases Array.mem_push.1 hdone with hdone | rfl
          · exact Or.inl hdone
          · rw [← (Profile.isRow_of_record hmade).1] at hmade
            exact Or.inr ⟨s, s', hmade⟩
        · exact Or.inr hfound

end

/-! ### batches -/

namespace Generator

variable {g g' : Generator}

theorem fixes_of_batchAt {start size : UInt64} {records : List Record} (h : g.batchAt start size = .ok records)
    (hend : start.toNat + size.toNat ≤ lastOffset) : ∀ r ∈ records, g.profile.Fixes g.createdAt r := by
  intro r hr
  have hrange := List.mem_range'_1.1 ((rows_of_batchAt h).mem_range hr)
  unfold batchAt at h
  obtain ⟨all, hall, rfl⟩ := map_eq_ok h
  rcases record_of_mem_recordsFrom hall (Array.mem_toList_iff.1 hr) with hnone | ⟨s, s', hmade⟩
  · cases Array.not_mem_empty r hnone
  · exact fixes_of_record hmade (by omega)

theorem fixes_of_advanceAll {sizes : List UInt64} {batches : List (List Record)}
    (h : g.advanceAll sizes = .ok (batches, g')) (hend : g.offset.toNat + (sizes.map UInt64.toNat).sum ≤ lastOffset) :
    ∀ r ∈ batches.flatten, g.profile.Fixes g.createdAt r := by
  induction sizes generalizing g batches with
  | nil =>
    cases h
    intro r hr
    cases hr
  | cons size rest ih =>
    rw [List.map_cons, List.sum_cons] at hend
    obtain ⟨records, more, g₁, hfirst, hmore, rfl⟩ := advanceAll_cons_eq_ok h
    obtain ⟨hbatch, hoffset, hg₁⟩ := eq_of_advance hfirst
    have hfront := fixes_of_batchAt hbatch (by omega)
    have hrest := ih hmore (by omega)
    -- the generator behind the first batch differs in its offset only
    rw [hg₁] at hrest
    intro r hr
    rw [List.flatten_cons] at hr
    rcases List.mem_append.1 hr with hr | hr
    · exact hfront r hr
    · exact hrest r hr

end Generator

/-! ### the same rows -/

/-- Two lists of rows for the same offsets, which differ at most in what is drawn for users and in the times of creation. -/
structure Profile.SameRows (p : Profile) (createdAt createdAt' : Timestamp) (records records' : List Record) : Prop where
  length : records'.length = records.length
  offsets : records'.map (·.offset) = records.map (·.offset)
  keys : records'.map (·.get? p.keyColumn) = records.map (·.get? p.keyColumn)
  devices : p = .thing → records' = records
  users : p = .user → createdAt' = createdAt →
    ∀ column ∈ fixedColumns, records'.map (·.get? column) = records.map (·.get? column)

namespace Profile

variable {p : Profile} {createdAt createdAt' : Timestamp} {start n : Nat} {records records' : List Record}

theorem Rows.map_offset (h : p.Rows start n records) :
    records.map (·.offset) = (List.range' start n).map UInt64.ofNat :=
  h.map_eq fun _ _ => UInt64.ofNat_toNat.symm

theorem sameRows_of_fixes (h : p.Rows start n records) (h' : p.Rows start n records') (hend : start + n ≤ lastOffset)
    (hfixes : ∀ r ∈ records, p.Fixes createdAt r) (hfixes' : ∀ r ∈ records', p.Fixes createdAt' r) :
    p.SameRows createdAt createdAt' records records' where
  length := h'.length.trans h.length.symm
  offsets := h'.map_offset.trans h.map_offset.symm
  keys := (h'.keys_eq (by omega)).trans (h.keys_eq (by omega)).symm
  devices hp := by
    subst hp
    have hall : records.map id = (List.range' start n).map deviceAt := h.map_eq hfixes
    have hall' : records'.map id = (List.range' start n).map deviceAt := h'.map_eq hfixes'
    rw [List.map_id] at hall hall'
    exact hall'.trans hall.symm
  users hp htime column hcolumn := by
    subst hp htime
    have hall : records.map (·.get? column) = (List.range' start n).map (fixedAt createdAt' · column) :=
      h.map_eq fun r hr => hfixes r hr column hcolumn
    have hall' : records'.map (·.get? column) = (List.range' start n).map (fixedAt createdAt' · column) :=
      h'.map_eq fun r hr => hfixes' r hr column hcolumn
    exact hall'.trans hall.symm

end Profile

end RowLoader
