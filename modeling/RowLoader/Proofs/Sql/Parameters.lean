import RowLoader.Proofs.Sql.Grammar

/-!
# The parameters of a batch

A batch is made of records with one value for each column, and of no others. Its parameters are the values of the records, row
after row, as many as its text has open marks.

* `IsFirstMisfit`, `checkArity_eq_error_iff`: the record that is reported if a batch is not made;
* `getElem?_parametersOf`: where a value stands among the parameters;
* `ofRecords_row_major`: which records make a batch, and its text and parameters.
-/

namespace RowLoader.Sql

variable {columns : Nat} {records : List Record}

/-! ### records that do not fit -/

/-- The record has not one value for each column, and all before it have. -/
def IsFirstMisfit (columns : Nat) (records : List Record) (r : Record) : Prop :=
  ∃ front rest, records = front ++ r :: rest ∧ (∀ f ∈ front, f.arity = columns) ∧ r.arity ≠ columns

theorem isFirstMisfit_cons_of_fits {r misfit : Record} (h : r.arity = columns) :
    IsFirstMisfit columns (r :: records) misfit ↔ IsFirstMisfit columns records misfit := by
  constructor
  · rintro ⟨front, rest, heq, hfront, hmisfit⟩
    cases front with
    | nil =>
      cases heq
      exact absurd h hmisfit
    | cons f front =>
      rw [List.cons_append, List.cons.injEq] at heq
      exact ⟨front, rest, heq.2, fun g hg => hfront g (List.mem_cons_of_mem f hg), hmisfit⟩
  · rintro ⟨front, rest, rfl, hfront, hmisfit⟩
    refine ⟨r :: front, rest, rfl, ?_, hmisfit⟩
    intro f hf
    rcases List.mem_cons.1 hf with rfl | hf
    · exact h
    · exact hfront f hf

theorem isFirstMisfit_cons_of_misfit {r misfit : Record} (h : r.arity ≠ columns) :
    IsFirstMisfit columns (r :: records) misfit ↔ misfit = r := by
  constructor
  · rintro ⟨front, rest, heq, hfront, hmisfit⟩
    cases front with
    | nil =>
      cases heq
      rfl
    | cons f front =>
      cases heq
      exact absurd (hfront r List.mem_cons_self) h
  · rintro rfl
    exact ⟨[], records, rfl, by simp, h⟩

theorem checkArity_eq_error_iff {t : Trap} : checkArity columns records = .error t ↔
    ∃ r, IsFirstMisfit columns records r ∧ t = .arityMismatch r.arity columns := by
  induction records with
  | nil =>
    constructor
    · intro h
      cases h
    · rintro ⟨r, ⟨front, rest, heq, -⟩, -⟩
      simp at heq
  | cons r rest ih =>
    by_cases hr : r.arity = columns
    · simp only [checkArity, if_pos hr, isFirstMisfit_cons_of_fits hr, ih]
    · simp only [checkArity, if_neg hr, isFirstMisfit_cons_of_misfit hr, exists_eq_left, Except.error.injEq]
      exact eq_comm

/-! ### places of values -/

/-- Rows of one length lie one behind the other. -/
theorem getElem?_parametersOf (h : ∀ r ∈ records, r.arity = columns) {row column : Nat} (hcolumn : column < columns) :
    (parametersOf records)[row * columns + column]? =
      (records[row]?.bind (·.get? column)).map Parameter.ofValue := by
  induction records generalizing row with
  | nil => simp [parametersOf]
  | cons r rest ih =>
    have hlength : (r.values.map Parameter.ofValue).length = columns := by
      rw [List.length_map]
      exact h r List.mem_cons_self
    rw [parametersOf_cons]
    cases row with
    | zero =>
      have hinside : 0 * columns + column < (r.values.map Parameter.ofValue).length := by omega
      rw [List.getElem?_append_left hinside, Nat.zero_mul, Nat.zero_add, List.getElem?_map]
      rfl
    | succ row =>
      have hbehind : (r.values.map Parameter.ofValue).length ≤ (row + 1) * columns + column := by
        rw [hlength, Nat.succ_mul]
        omega
      have hplace : (row + 1) * columns + column - columns = row * columns + column := by
        rw [Nat.succ_mul]
        omega
      rw [List.getElem?_append_right hbehind, hlength, hplace, ih fun r' hr' => h r' (List.mem_cons_of_mem r hr'),
        List.getElem?_cons_succ]

/-- Each of the values has a place. -/
theorem exists_value (h : ∀ r ∈ records, r.arity = columns) {row column : Nat} (hrow : row < records.length)
    (hcolumn : column < columns) : ∃ v, records[row]?.bind (·.get? column) = some v := by
  have harity : records[row].values.length = columns := h _ (List.getElem_mem hrow)
  refine ⟨records[row].values[column], ?_⟩
  rw [List.getElem?_eq_getElem hrow]
  exact List.getElem?_eq_getElem (by omega)

/-! ### batches -/

/-- **A batch is its records, row by row.** It is made if every record has one value for each column, and else the first that
has not is reported. Its text is that of as many rows, its parameters are one for each open mark of the text, and the value of
a record in a column stands at the place of its row and column. -/
theorem ofRecords_row_major (verb : WriteVerb) (table : String) (columns : List String) (records : List Record) :
    ((∃ statement, Statement.ofRecords verb table columns records = .ok statement) ↔
      ∀ r ∈ records, r.arity = columns.length) ∧
    (∀ t, Statement.ofRecords verb table columns records = .error t ↔
      ∃ r, IsFirstMisfit columns.length records r ∧ t = .arityMismatch r.arity columns.length) ∧
    ∀ statement, Statement.ofRecords verb table columns records = .ok statement →
      statement.rows = records.length ∧
      statement.text = batchText verb table columns statement.rows ∧
      statement.parameters.length = statement.rows * columns.length ∧
      openMarks false statement.text.toList = statement.parameters.length ∧
      ∀ row < statement.rows, ∀ column < columns.length, ∃ v,
        records[row]?.bind (·.get? column) = some v ∧
        statement.parameters[row * columns.length + column]? = some (.ofValue v) := by
  unfold Statement.ofRecords
  refine ⟨?_, fun t => ?_, ?_⟩
  · rw [← checkArity_eq_ok_iff]
    constructor
    · rintro ⟨statement, h⟩
      obtain ⟨_, hfits, -⟩ := map_eq_ok h
      exact hfits
    · intro hfits
      rw [hfits]
      exact ⟨_, rfl⟩
  · rw [← checkArity_eq_error_iff]
    cases checkArity columns.length records <;> simp [Except.map]
  · intro statement h
    obtain ⟨_, hfits, rfl⟩ := map_eq_ok h
    have hall := checkArity_eq_ok_iff.1 hfits
    have hlength := length_parametersOf hall
    have hmarks := holds_batchText verb table columns records.length []
    rw [List.append_nil] at hmarks
    refine ⟨rfl, rfl, hlength, hmarks.trans hlength.symm, ?_⟩
    intro row hrow column hcolumn
    obtain ⟨v, hv⟩ := exists_value hall hrow hcolumn
    refine ⟨v, hv, ?_⟩
    rw [getElem?_parametersOf hall hcolumn, hv]
    rfl

/-- Names and texts that look like marks do not count; a record that is too short is reported before one that is empty. -/
theorem ofRecords_row_major_of_marks :
    (∃ statement, Statement.ofRecords .insert "?" ["a?", "b\x60"] [⟨7, [.int 1, .text "?"]⟩, ⟨8, [.int 2, .text "x"]⟩] =
        .ok statement ∧
      statement.parameters.length = 4 ∧ openMarks false statement.text.toList = 4 ∧
      statement.parameters[1 * 2 + 1]? = some (.bytes "x")) ∧
    Statement.ofRecords .insert "?" ["a?", "b\x60"] [⟨7, [.int 1, .text "?"]⟩, ⟨8, [.int 2]⟩, ⟨9, []⟩] =
      .error (.arityMismatch 1 2) := by
  constructor
  · obtain ⟨hmade, -, hshape⟩ := ofRecords_row_major .insert "?" ["a?", "b\x60"]
      [⟨7, [.int 1, .text "?"]⟩, ⟨8, [.int 2, .text "x"]⟩]
    obtain ⟨statement, hstatement⟩ := hmade.2 (by decide)
    obtain ⟨hrows, -, hlength, hmarks, hplaces⟩ := hshape statement hstatement
    obtain ⟨v, hv, hplace⟩ := hplaces 1 (by rw [hrows]; decide) 1 (by decide)
    rw [hrows] at hlength
    cases hv
    exact ⟨statement, hstatement, hlength, hmarks.trans hlength, hplace⟩
  · obtain ⟨-, hmisfit, -⟩ := ofRecords_row_major .insert "?" ["a?", "b\x60"]
      [⟨7, [.int 1, .text "?"]⟩, ⟨8, [.int 2]⟩, ⟨9, []⟩]
    exact (hmisfit _).2 ⟨⟨8, [.int 2]⟩, ⟨[⟨7, [.int 1, .text "?"]⟩], [⟨9, []⟩], rfl, by decide, by decide⟩, rfl⟩

end RowLoader.Sql
