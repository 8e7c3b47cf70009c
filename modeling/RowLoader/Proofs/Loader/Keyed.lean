import RowLoader.Proofs.Loader.Validated
import RowLoader.Proofs.Sink.Keyed

/-!
# Loads into a keyed table

What a run of a valid plan leaves in a table that is kept under its primary key. Keys are a function of the offset and tell
offsets apart, so batches only meet rows that were there before the run.

* `Loader.KeyedRun`: a run inside the key space over such a table, with the records of its batches;
* `Loader.KeyedRun.of_course`: it is complete, or ends at the first batch that meets a key;
* `LoadPlan.Inserted`, `LoadPlan.Replaced`: what this comes to for a plan, key by key.
-/

namespace RowLoader

namespace Loader

/-- The rows of the first `i` batches. -/
def entriesBefore (p : Profile) (records : Nat → List Record) (i : Nat) : List (Sql.Parameter × Row) :=
  ((List.range i).flatMap records).map p.entry

/-- The table after the first `i` batches were put into it. -/
def tableAfter (p : Profile) (name : String) (records : Nat → List Record) (rows : KeyedRows) (i : Nat) : KeyedTable :=
  p.keyedTable name (KeyedTable.overwrite rows (entriesBefore p records i))

theorem entriesBefore_succ (p : Profile) (records : Nat → List Record) (i : Nat) :
    entriesBefore p records (i + 1) = entriesBefore p records i ++ (records i).map p.entry := by
  unfold entriesBefore
  rw [List.range_succ, List.flatMap_append, List.flatMap_singleton, List.map_append]

theorem tableAfter_succ (p : Profile) (name : String) (records : Nat → List Record) (rows : KeyedRows) (i : Nat) :
    ((tableAfter p name records rows i).store ((records i).map p.entry)).sink = tableAfter p name records rows (i + 1) := by
  unfold tableAfter
  rw [entriesBefore_succ, KeyedTable.overwrite_append]
  rfl

/-- A run of `n` batches inside the key space, into a table of the loader's shape that holds `rows`. -/
structure KeyedRun (l : Loader KeyedTable) (n : Nat) (records : Nat → List Record) (rows : KeyedRows) : Prop where
  target : checkTarget l.profile l.table l.batchSize = .ok ()
  inside : l.batchStart n ≤ lastOffset
  made : ∀ i < n, l.batchRecords i = .ok (records i)
  sink : l.sink = l.profile.keyedTable l.table rows

namespace KeyedRun

variable {l l' : Loader KeyedTable} {n i : Nat} {records : Nat → List Record} {rows : KeyedRows} {elapsed : Duration}
  {statements : List Sql.Statement} {statement : Sql.Statement} {answer : Except Aborted Metrics}

/-! ### the rows of the batches -/

theorem end_le (h : l.KeyedRun n records rows) (hi : i < n) : l.batchStart i + l.batchSize.toNat ≤ lastOffset := by
  rw [← batchStart_succ]
  exact Nat.le_trans (l.batchStart_mono hi) h.inside

theorem rows_batch (h : l.KeyedRun n records rows) (hi : i < n) :
    l.profile.Rows (l.batchStart i) l.batchSize.toNat (records i) := by
  have hlast : lastOffset < 2 ^ 64 := by decide
  have hend := h.end_le hi
  exact rows_of_batchRecords (by omega) (h.made i hi)

theorem rows_before (h : l.KeyedRun n records rows) (hi : i ≤ n) :
    l.profile.Rows l.offset.toNat (i * l.batchSize.toNat) ((List.range i).flatMap records) :=
  rows_of_batches (Nat.le_trans (l.batchStart_mono hi) h.inside) fun j hj => h.made j (Nat.lt_of_lt_of_le hj hi)

theorem eq_of_made (h : l.KeyedRun n records rows) (hi : i < n) (made : l.batchStatement i = .ok statement) :
    statement = ⟨Sql.batchText l.profile.verb l.table l.profile.columns l.batchSize.toNat, Sql.parametersOf (records i),
      l.batchSize.toNat⟩ := by
  have hstatement := (h.rows_batch hi).ofRecords l.profile.verb l.table
  unfold batchStatement at made
  rw [h.made i hi] at made
  cases made.symm.trans hstatement
  rfl

/-- What the batches before it put into the table does not bear on a batch. -/
theorem meets_overwrite_iff (h : l.KeyedRun n records rows) (hi : i < n) :
    l.profile.Meets (KeyedTable.overwrite rows (entriesBefore l.profile records i)) (l.batchStart i) l.batchSize.toNat ↔
      l.profile.Meets rows (l.batchStart i) l.batchSize.toNat := by
  have hend := h.end_le hi
  constructor
  · rintro ⟨o, hge, hlt, hmem⟩
    rcases KeyedTable.mem_overwrite.1 hmem with hmem | hmem
    · exact ⟨o, hge, hlt, hmem⟩
    · obtain ⟨o', hge', hlt', heq⟩ := (h.rows_before (Nat.le_of_lt hi)).mem_keys_iff.1 hmem
      change o' < l.batchStart i at hlt'
      have hsame := Profile.keyParameter_inj (by omega) (by omega) heq
      omega
  · rintro ⟨o, hge, hlt, hmem⟩
    exact ⟨o, hge, hlt, KeyedTable.mem_overwrite.2 (Or.inl hmem)⟩

/-! ### one batch -/

theorem write_of_free (h : l.KeyedRun n records rows) (hi : i < n) (made : l.batchStatement i = .ok statement)
    (hfree : l.profile.verb = .insert → ¬ l.profile.Meets rows (l.batchStart i) l.batchSize.toNat) :
    Sink.write (tableAfter l.profile l.table records rows i) statement =
      (tableAfter l.profile l.table records rows i).store ((records i).map l.profile.entry) := by
  have hend := h.end_le hi
  rw [h.eq_of_made hi made]
  exact (h.rows_batch hi).write_of_free (by omega) fun hverb hmeets =>
    hfree hverb ((h.meets_overwrite_iff hi).1 hmeets)

theorem write_of_taken (h : l.KeyedRun n records rows) (hi : i < n) (made : l.batchStatement i = .ok statement)
    (hverb : l.profile.verb = .insert) (hmeets : l.profile.Meets rows (l.batchStart i) l.batchSize.toNat) :
    Sink.write (tableAfter l.profile l.table records rows i) statement =
      (tableAfter l.profile l.table records rows i).refuse KeyedTable.duplicate := by
  have hend := h.end_le hi
  rw [h.eq_of_made hi made]
  exact (h.rows_batch hi).write_of_taken (by omega) hverb ((h.meets_overwrite_iff hi).2 hmeets)

theorem free_of_accepted (h : l.KeyedRun n records rows) (hi : i < n) (made : l.batchStatement i = .ok statement) {w : UInt64}
    (accepted : (Sink.write (tableAfter l.profile l.table records rows i) statement).answer = .ok w) :
    l.profile.verb = .insert → ¬ l.profile.Meets rows (l.batchStart i) l.batchSize.toNat := by
  intro hverb hmeets
  rw [h.write_of_taken hi made hverb hmeets] at accepted
  cases accepted

theorem taken_of_refused (h : l.KeyedRun n records rows) (hi : i < n) (made : l.batchStatement i = .ok statement)
    {e : LoadError} (refused : (Sink.write (tableAfter l.profile l.table records rows i) statement).answer = .error e) :
    l.profile.verb = .insert ∧ l.profile.Meets rows (l.batchStart i) l.batchSize.toNat := by
  by_contra hfree
  rw [h.write_of_free hi made fun hverb hmeets => hfree ⟨hverb, hmeets⟩] at refused
  cases refused

/-! ### runs -/

/-- The batches that passed are in the table, and met no key if they were inserted. -/
theorem feed_of_passed (h : l.KeyedRun n records rows) (passed : l.Passed statements) (hle : statements.length ≤ n) :
    Sink.feed l.sink statements = tableAfter l.profile l.table records rows statements.length ∧
      (l.profile.verb = .insert → ∀ j < statements.length, ¬ l.profile.Meets rows (l.batchStart j) l.batchSize.toNat) := by
  induction passed with
  | nil => exact ⟨h.sink, fun _ j hj => absurd hj (Nat.not_lt_zero j)⟩
  | concat front checked made accepted ih =>
    rw [List.length_append, List.length_singleton] at hle ⊢
    obtain ⟨hfeed, hbefore⟩ := ih (by omega)
    rw [hfeed] at accepted
    have hfree := h.free_of_accepted hle made accepted
    refine ⟨?_, fun hverb j hj => ?_⟩
    · rw [Sink.feed_concat, hfeed, h.write_of_free hle made hfree, tableAfter_succ]
    · rcases Nat.lt_succ_iff_lt_or_eq.1 hj with hj | rfl
      · exact hbefore hverb j hj
      · exact hfree hverb

/-- **A run into a keyed table.** All batches are in the table at the end, or an insert stopped at the first batch that met a
key, and the table holds the batches before it. -/
theorem of_course (h : l.KeyedRun n records rows) (hc : l.Course elapsed n statements answer l') :
    (answer = .ok (l.counters n elapsed) ∧ l'.sink = tableAfter l.profile l.table records rows n ∧
      (l.profile.verb = .insert → ∀ j < n, ¬ l.profile.Meets rows (l.batchStart j) l.batchSize.toNat)) ∨
    (l.profile.verb = .insert ∧ ∃ i < n, l.profile.Meets rows (l.batchStart i) l.batchSize.toNat ∧
      (∀ j < i, ¬ l.profile.Meets rows (l.batchStart j) l.batchSize.toNat) ∧
      (∃ e, answer = .error ⟨{ l.counters i elapsed with failed := l.batchSize },
        .batch (UInt64.ofNat i) (UInt64.ofNat (l.batchStart i)) l.batchSize e⟩) ∧
      l'.sink = tableAfter l.profile l.table records rows i) := by
  cases hc with
  | rejected target => cases h.target.symm.trans target
  | complete target passed all =>
    subst all
    obtain ⟨hfeed, hfree⟩ := h.feed_of_passed passed (Nat.le_refl _)
    exact Or.inl ⟨rfl, hfeed, hfree⟩
  | exhausted target passed more left => cases (batchCheck_of_end_le more h.inside).symm.trans left
  | refused target passed more checked made refused =>
    obtain ⟨hfeed, hfree⟩ := h.feed_of_passed passed (Nat.le_of_lt more)
    rw [hfeed] at refused
    obtain ⟨hverb, hmeets⟩ := h.taken_of_refused more made refused
    refine Or.inr ⟨hverb, _, more, hmeets, hfree hverb, ⟨_, rfl⟩, ?_⟩
    change Sink.feed _ _ = _
    rw [Sink.feed_concat, hfeed, h.write_of_taken more made hverb hmeets]
    rfl

/-- A run that overwrites is complete, and so is one that meets no key. -/
theorem complete_of_free (h : l.KeyedRun n records rows)
    (hfree : l.profile.verb = .insert → ∀ j < n, ¬ l.profile.Meets rows (l.batchStart j) l.batchSize.toNat)
    (hc : l.Course elapsed n statements answer l') :
    answer = .ok (l.counters n elapsed) ∧ l'.sink = tableAfter l.profile l.table records rows n := by
  rcases h.of_course hc with ⟨hanswer, hsink, -⟩ | ⟨hverb, i, hi, hmeets, -⟩
  · exact ⟨hanswer, hsink⟩
  · exact absurd hmeets (hfree hverb i hi)

/-! ### what is found in the table -/

theorem nodup_before (h : l.KeyedRun n records rows) (hi : i ≤ n) :
    ((entriesBefore l.profile records i).map Prod.fst).Nodup := by
  have hle : l.batchStart i ≤ lastOffset := Nat.le_trans (l.batchStart_mono hi) h.inside
  exact (h.rows_before hi).nodup_entries (Nat.le_succ_of_le hle)

/-- Under the key of each offset of the first batches lies its record. -/
theorem lookup_of_lt (h : l.KeyedRun n records rows) (hi : i ≤ n) {o : Nat} (hge : l.offset.toNat ≤ o)
    (hlt : o < l.batchStart i) :
    ∃ r ∈ (List.range i).flatMap records, r.offset.toNat = o ∧
      (tableAfter l.profile l.table records rows i).rows.lookup (l.profile.keyParameter o) =
        some (r.values.map Sql.Parameter.ofValue) := by
  have hrows := h.rows_before hi
  have hmem : o ∈ ((List.range i).flatMap records).map (·.offset.toNat) := by
    rw [hrows.offsets, List.mem_range'_1]
    exact ⟨hge, hlt⟩
  obtain ⟨r, hr, rfl⟩ := List.mem_map.1 hmem
  exact ⟨r, hr, rfl, KeyedTable.lookup_overwrite_of_mem (h.nodup_before hi) (List.mem_map_of_mem hr)⟩

/-- Under all other keys lies what was there before. -/
theorem lookup_of_ne (h : l.KeyedRun n records rows) (hi : i ≤ n) {key : Sql.Parameter}
    (hne : ∀ o, l.offset.toNat ≤ o → o < l.batchStart i → key ≠ l.profile.keyParameter o) :
    (tableAfter l.profile l.table records rows i).rows.lookup key = rows.lookup key := by
  refine KeyedTable.lookup_overwrite_of_notMem fun hkey => ?_
  obtain ⟨o, hge, hlt, heq⟩ := (h.rows_before hi).mem_keys_iff.1 hkey
  exact hne o hge hlt heq

/-- As long as no batch meets a key, the rows that were there stay. -/
theorem lookup_of_free (h : l.KeyedRun n records rows) (hi : i ≤ n)
    (hfree : ∀ j < i, ¬ l.profile.Meets rows (l.batchStart j) l.batchSize.toNat) {key : Sql.Parameter} (hkey : key ∈ rows) :
    (tableAfter l.profile l.table records rows i).rows.lookup key = rows.lookup key := by
  refine h.lookup_of_ne hi fun o hge hlt heq => ?_
  have hmeets : l.profile.Meets rows l.offset.toNat (i * l.batchSize.toNat) := ⟨o, hge, hlt, heq ▸ hkey⟩
  obtain ⟨j, hj, hmeets⟩ := (Profile.meets_iff_exists_batch (batchSize_pos h.target)).1 hmeets
  exact hfree j hj hmeets

end KeyedRun

end Loader

/-! ### plans -/

namespace LoadPlan

variable (plan : LoadPlan) (createdAt : Timestamp) (records : Nat → List Record) (rows : KeyedRows)

/-- The loader of a plan over a table of the plan's shape that holds `rows`. -/
def keyedLoader : Loader KeyedTable := .ofPlan plan createdAt (plan.profile.keyedTable plan.table rows)

/-- That table after the first `i` batches were put into it. -/
def tableAfter (i : Nat) : KeyedTable := Loader.tableAfter plan.profile plan.table records rows i

/-- The key of one of the plan's rows is in the table. -/
def Meets : Prop := plan.profile.Meets rows plan.startOffset.toNat (plan.batchCount.toNat * plan.batchSize.toNat)

/-- The key of one of the rows of batch `i` is in the table. -/
def MeetsAt (i : Nat) : Prop :=
  plan.profile.Meets rows (plan.startOffset.toNat + i * plan.batchSize.toNat) plan.batchSize.toNat

/-- How rows are inserted: up to the first batch that meets a key, and none that was there changes. -/
structure Inserted (o : Outcome KeyedTable (Except Aborted Metrics)) : Prop where
  ok_iff : (∃ m, o.answer = .ok m) ↔ ¬ plan.Meets rows
  complete : ∀ m, o.answer = .ok m → o.loader.sink = plan.tableAfter records rows plan.batchCount.toNat
  stopped : plan.Meets rows → ∃ i < plan.batchCount.toNat, plan.MeetsAt rows i ∧ (∀ j < i, ¬ plan.MeetsAt rows j) ∧
    ∃ a index offset e, o.answer = .error a ∧ a.error = .batch index offset plan.batchSize e ∧ index.toNat = i ∧
      offset.toNat = plan.startOffset.toNat + i * plan.batchSize.toNat ∧
      a.metrics.written.toNat = i * plan.batchSize.toNat ∧ a.metrics.failed = plan.batchSize ∧
      o.loader.sink = plan.tableAfter records rows i
  kept : ∀ key ∈ rows, o.loader.sink.rows.lookup key = rows.lookup key

/-- How rows are replaced: at the keys of the plan's offsets, and nowhere else. -/
structure Replaced (o : Outcome KeyedTable (Except Aborted Metrics)) : Prop where
  complete : ∃ m, o.answer = .ok m
  sink_eq : o.loader.sink = plan.tableAfter records rows plan.batchCount.toNat
  written : ∀ offset, plan.startOffset.toNat ≤ offset →
    offset < plan.startOffset.toNat + plan.batchCount.toNat * plan.batchSize.toNat →
    ∃ r ∈ (List.range plan.batchCount.toNat).flatMap records, r.offset.toNat = offset ∧
      o.loader.sink.rows.lookup (plan.profile.keyParameter offset) = some (r.values.map Sql.Parameter.ofValue)
  kept : ∀ key, (∀ offset, plan.startOffset.toNat ≤ offset →
    offset < plan.startOffset.toNat + plan.batchCount.toNat * plan.batchSize.toNat →
    key ≠ plan.profile.keyParameter offset) → o.loader.sink.rows.lookup key = rows.lookup key

end LoadPlan

namespace Loader

variable {plan : LoadPlan} {createdAt : Timestamp} {records : Nat → List Record} {rows : KeyedRows}

theorem exists_keyedRun (hvalid : plan.validate = .ok ()) (createdAt : Timestamp) :
    ∃ records : Nat → List Record,
      (∀ i < plan.batchCount.toNat, (ofPlan plan createdAt ()).batchRecords i = .ok (records i)) ∧
      ∀ rows, (plan.keyedLoader createdAt rows).KeyedRun plan.batchCount.toNat records rows := by
  obtain ⟨target, hend⟩ := LoadPlan.validate_eq_ok_iff.1 hvalid
  obtain ⟨records, hrecords⟩ := exists_records (l := ofPlan plan createdAt ()) hend
  exact ⟨records, hrecords, fun rows => ⟨target, hend, hrecords, rfl⟩⟩

theorem exists_inserted (h : (plan.keyedLoader createdAt rows).KeyedRun plan.batchCount.toNat records rows)
    (hverb : plan.profile.verb = .insert) (elapsed : Duration) :
    ∃ o, (plan.keyedLoader createdAt rows).run elapsed plan.batchCount = .ok o ∧ plan.Inserted records rows o := by
  have hbatches : plan.Meets rows ↔ ∃ i < plan.batchCount.toNat, plan.MeetsAt rows i :=
    Profile.meets_iff_exists_batch (batchSize_pos h.target)
  obtain ⟨statements, o, hrun, hcourse, -⟩ := exists_course (plan.keyedLoader createdAt rows) elapsed plan.batchCount
  refine ⟨o, hrun, ?_⟩
  rcases h.of_course hcourse with ⟨hanswer, hsink, hfree⟩ | ⟨-, i, hi, hmeets, hbefore, ⟨e, hanswer⟩, hsink⟩
  · have hnone : ¬ plan.Meets rows := by
      intro hmeets
      obtain ⟨i, hi, hmeets⟩ := hbatches.1 hmeets
      exact hfree hverb i hi hmeets
    refine ⟨⟨fun _ => hnone, fun _ => ⟨_, hanswer⟩⟩, fun m _ => hsink, fun hmeets => absurd hmeets hnone, ?_⟩
    intro key hkey
    rw [hsink]
    exact h.lookup_of_free (Nat.le_refl _) (hfree hverb) hkey
  · have hsome : plan.Meets rows := hbatches.2 ⟨i, hi, hmeets⟩
    have hend := h.end_le hi
    have hlt : (plan.keyedLoader createdAt rows).batchStart i < 2 ^ 64 := by
      have hlast : lastOffset < 2 ^ 64 := by decide
      omega
    obtain ⟨hwritten, hcommits⟩ := toNat_counters (batchSize_pos h.target) hlt elapsed
    refine ⟨⟨?_, fun hnone => absurd hsome hnone⟩, ?_, ?_, ?_⟩
    · rintro ⟨m, hm⟩
      cases hm.symm.trans hanswer
    · intro m hm
      cases hm.symm.trans hanswer
    · intro _
      exact ⟨i, hi, hmeets, hbefore, _, _, _, e, hanswer, rfl, hcommits, toNat_ofNat_of_lt hlt, hwritten, rfl, hsink⟩
    · intro key hkey
      rw [hsink]
      exact h.lookup_of_free (Nat.le_of_lt hi) hbefore hkey

theorem exists_replaced (h : (plan.keyedLoader createdAt rows).KeyedRun plan.batchCount.toNat records rows)
    (hverb : plan.profile.verb ≠ .insert) (elapsed : Duration) :
    ∃ o, (plan.keyedLoader createdAt rows).run elapsed plan.batchCount = .ok o ∧ plan.Replaced records rows o := by
  obtain ⟨statements, o, hrun, hcourse, -⟩ := exists_course (plan.keyedLoader createdAt rows) elapsed plan.batchCount
  obtain ⟨hanswer, hsink⟩ := h.complete_of_free (fun hinsert => absurd hinsert hverb) hcourse
  refine ⟨o, hrun, ⟨_, hanswer⟩, hsink, fun offset hge hlt => ?_, fun key hne => ?_⟩
  · rw [hsink]
    exact h.lookup_of_lt (Nat.le_refl _) hge hlt
  · rw [hsink]
    exact h.lookup_of_ne (Nat.le_refl _) hne

/-- Replacing the rows of a plan a second time changes nothing. -/
theorem exists_replaced_again
    (h : ∀ rows, (plan.keyedLoader createdAt rows).KeyedRun plan.batchCount.toNat records rows)
    (hverb : plan.profile.verb ≠ .insert) (rows : KeyedRows) (elapsed : Duration) :
    ∃ o, (ofPlan plan createdAt (plan.tableAfter records rows plan.batchCount.toNat)).run elapsed plan.batchCount = .ok o ∧
      (∃ m, o.answer = .ok m) ∧ o.loader.sink = plan.tableAfter records rows plan.batchCount.toNat := by
  obtain ⟨o, hrun, hreplaced⟩ := exists_replaced (h (plan.tableAfter records rows plan.batchCount.toNat).rows) hverb elapsed
  refine ⟨o, hrun, hreplaced.complete, hreplaced.sink_eq.trans ?_⟩
  exact congrArg (plan.profile.keyedTable plan.table)
    (KeyedTable.overwrite_overwrite ((h rows).nodup_before (Nat.le_refl _)))

theorem clear_keyedLoader (plan : LoadPlan) (createdAt : Timestamp) (rows : KeyedRows) :
    (plan.keyedLoader createdAt rows).clear.answer = .ok () ∧
      (plan.keyedLoader createdAt rows).clear.loader = plan.keyedLoader createdAt ∅ := by
  have htruncate : Sink.truncate (plan.keyedLoader createdAt rows).sink (plan.keyedLoader createdAt rows).table =
    ⟨.ok (), plan.profile.keyedTable plan.table ∅, #[]⟩ := if_pos rfl
  constructor
  · simp only [clear, htruncate]
  · simp only [clear, htruncate]
    rfl

/-- A load into an empty table is complete, and leaves as many rows as it counts. -/
theorem count_of_load_into_empty (hvalid : plan.validate = .ok ())
    (h : (plan.keyedLoader createdAt ∅).KeyedRun plan.batchCount.toNat records ∅) (elapsed : Duration) :
    ∃ o m, (plan.keyedLoader createdAt ∅).run elapsed plan.batchCount = .ok o ∧ o.answer = .ok m ∧
      o.loader.countRows.answer = .ok m.written ∧ m.written = plan.rows ∧
      m.written.toNat = plan.batchCount.toNat * plan.batchSize.toNat := by
  have hfree : ∀ start n, ¬ plan.profile.Meets ∅ start n := by
    rintro start n ⟨o, -, -, hmem⟩
    exact Finmap.notMem_empty hmem
  obtain ⟨statements, o, hrun, hcourse, -⟩ := exists_course (plan.keyedLoader createdAt ∅) elapsed plan.batchCount
  obtain ⟨hanswer, hsink⟩ := h.complete_of_free (fun _ j _ => hfree _ _) hcourse
  obtain ⟨hrows, hexact⟩ := LoadPlan.rows_of_validate hvalid
  have hlength : (entriesBefore plan.profile records plan.batchCount.toNat).length =
      plan.batchCount.toNat * plan.batchSize.toNat := by
    unfold entriesBefore
    rw [List.length_map]
    exact (h.rows_before (Nat.le_refl _)).length
  have hcount : o.loader.countRows.answer = .ok plan.rows := by
    change (Sink.count o.loader.sink o.loader.table).answer = _
    rw [hsink, hcourse.table_eq]
    change Reply.answer (if plan.table = plan.table then _ else _) = _
    rw [if_pos rfl, hrows, ← hlength]
    exact congrArg (fun n => Except.ok (UInt64.ofNat n)) (KeyedTable.card_keys_overwrite (h.nodup_before (Nat.le_refl _)))
  refine ⟨o, _, hrun, hanswer, hcount.trans (congrArg Except.ok hrows), hrows.symm, ?_⟩
  rw [← hexact, hrows]
  rfl

/-- **Loading into a keyed table.** A valid plan, with the records of its batches, over a table that holds any rows: devices
are inserted, users are replaced and replaced again without a change, and a load into the cleared table is complete and
leaves as many rows as it counts. -/
theorem load_into_keyedTable {plan : LoadPlan} (hvalid : plan.validate = .ok ()) (createdAt : Timestamp) :
    ∃ records : Nat → List Record,
      (∀ i < plan.batchCount.toNat, (ofPlan plan createdAt ()).batchRecords i = .ok (records i)) ∧
      ∀ (rows : KeyedRows) (elapsed : Duration),
        (plan.profile = .thing →
          ∃ o, (plan.keyedLoader createdAt rows).run elapsed plan.batchCount = .ok o ∧ plan.Inserted records rows o) ∧
        (plan.profile = .user →
          ∃ o, (plan.keyedLoader createdAt rows).run elapsed plan.batchCount = .ok o ∧ plan.Replaced records rows o ∧
            ∀ later, ∃ o', (ofPlan plan createdAt o.loader.sink).run later plan.batchCount = .ok o' ∧
              (∃ m, o'.answer = .ok m) ∧ o'.loader.sink = o.loader.sink) ∧
        (plan.keyedLoader createdAt rows).clear.answer = .ok () ∧
        ∃ o m, (plan.keyedLoader createdAt rows).clear.loader.run elapsed plan.batchCount = .ok o ∧ o.answer = .ok m ∧
          o.loader.countRows.answer = .ok m.written ∧ m.written = plan.rows ∧
          m.written.toNat = plan.batchCount.toNat * plan.batchSize.toNat := by
  obtain ⟨records, hrecords, h⟩ := exists_keyedRun hvalid createdAt
  refine ⟨records, hrecords, fun rows elapsed => ⟨fun hp => ?_, fun hp => ?_, ?_⟩⟩
  · have hverb : plan.profile.verb = .insert := congrArg Profile.verb hp
    exact exists_inserted (h rows) hverb elapsed
  · have hverb : plan.profile.verb ≠ .insert := by
      rw [hp]
      decide
    obtain ⟨o, hrun, hreplaced⟩ := exists_replaced (h rows) hverb elapsed
    refine ⟨o, hrun, hreplaced, fun later => ?_⟩
    rw [hreplaced.sink_eq]
    exact exists_replaced_again h hverb rows later
  · obtain ⟨hclear, hloader⟩ := clear_keyedLoader plan createdAt rows
    rw [hloader]
    exact ⟨hclear, count_of_load_into_empty hvalid (h ∅) elapsed⟩

/-- A small load of devices that meets the key of its fourth row stops at its second batch, one of users goes through and
only touches its own ids. -/
theorem load_into_keyedTable_of_taken :
    (∃ o a, ({ LoadPlan.ofProfile .thing with batchSize := 2, batchCount := 3 }.keyedLoader .epoch
        (Finmap.singleton (.bytes "WDDUX5268F1000003") [])).run .zero 3 = .ok o ∧
      o.answer = .error a ∧ a.metrics.written.toNat = 2 ∧ a.metrics.failed = 2) ∧
    ∃ o m, ({ LoadPlan.ofProfile .user with batchSize := 2, batchCount := 3 }.keyedLoader .epoch
        (Finmap.singleton (.int 7) [])).run .zero 3 = .ok o ∧
      o.answer = .ok m ∧ (∃ row, o.loader.sink.rows.lookup (.int 6) = some row) ∧
      o.loader.sink.rows.lookup (.int 7) = some [] := by
  constructor
  · have hvalid : { LoadPlan.ofProfile .thing with batchSize := 2, batchCount := 3 }.validate = .ok () := by decide +kernel
    have hkey : Profile.thing.keyParameter 3 = .bytes "WDDUX5268F1000003" := by decide +kernel
    obtain ⟨records, -, hload⟩ := load_into_keyedTable hvalid .epoch
    obtain ⟨hdevices, -⟩ := hload (Finmap.singleton (.bytes "WDDUX5268F1000003") []) .zero
    obtain ⟨o, hrun, hinserted⟩ := hdevices rfl
    have hmeets : Profile.thing.Meets (Finmap.singleton (.bytes "WDDUX5268F1000003") []) 0 6 :=
      ⟨3, by omega, by omega, (Finmap.mem_singleton _ _ _).2 hkey⟩
    obtain ⟨i, hi, ⟨offset, hge, hlt, hmem⟩, -, a, -, -, -, hanswer, -, -, -, hwritten, hfailed, -⟩ :=
      hinserted.stopped hmeets
    change i < 3 at hi
    change 0 + i * 2 ≤ offset at hge
    change offset < 0 + i * 2 + 2 at hlt
    change a.metrics.written.toNat = i * 2 at hwritten
    have hlast : 7 ≤ lastOffset := by decide
    have hoffset : offset = 3 :=
      Profile.keyParameter_inj (by omega) (by omega) (((Finmap.mem_singleton _ _ _).1 hmem).trans hkey.symm)
    exact ⟨o, a, hrun, hanswer, by omega, hfailed⟩
  · have hvalid : { LoadPlan.ofProfile .user with batchSize := 2, batchCount := 3 }.validate = .ok () := by decide +kernel
    obtain ⟨records, -, hload⟩ := load_into_keyedTable hvalid .epoch
    obtain ⟨-, husers, -⟩ := hload (Finmap.singleton (.int 7) []) .zero
    obtain ⟨o, hrun, hreplaced, -⟩ := husers rfl
    obtain ⟨m, hanswer⟩ := hreplaced.complete
    obtain ⟨r, -, -, hrow⟩ := hreplaced.written 5 (by decide) (by decide)
    have hkept : o.loader.sink.rows.lookup (.int 7) = some [] := by
      rw [hreplaced.kept (.int 7) ?_]
      · exact Finmap.lookup_singleton_eq
      · intro offset hge hlt heq
        change offset < 0 + 6 at hlt
        have hlast : 6 ≤ lastOffset := by decide
        have hoffset : offset = 6 := Profile.keyParameter_inj (p := .user) (by omega) hlast heq.symm
        omega
    exact ⟨o, m, hrun, hanswer, ⟨_, hrow⟩, hkept⟩

end Loader

end RowLoader
