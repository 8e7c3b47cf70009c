import RowLoader.Proofs.Sql.Grammar

/-!
# Names stay quoted

No name ends its own quotes, so a text that names a table says that table and nothing else.

* `readQuoted_eq_some_iff`: what is read as a quoted name, and where reading stops;
* `readTable`: the table that a text names behind some keywords;
* `names_stay_quoted`: a quoted name in front of any text, and the texts that clear and count a table.
-/

namespace RowLoader.Sql

/-! ### names -/

/-- Reading stops at a backquote that stands alone. -/
theorem head?_ne_of_readDoubled {text name rest : List Char} (h : readDoubled text = some (name, rest)) :
    rest.head? ≠ some backquote := by
  induction text using readDoubled.induct generalizing name with
  | case1 => cases h
  | case2 =>
    cases h
    simp
  | case3 c hc => simp [readDoubled, hc] at h
  | case4 r ih =>
    simp only [readDoubled, if_true, Option.map_eq_some_iff, Prod.mk.injEq, Prod.exists] at h
    obtain ⟨name', rest', hread, -, rfl⟩ := h
    exact ih hread
  | case5 d r hd =>
    simp only [readDoubled, if_true, hd, if_false, Option.some.injEq, Prod.mk.injEq] at h
    obtain ⟨-, rfl⟩ := h
    simpa using hd
  | case6 c d r hc ih =>
    simp only [readDoubled, hc, if_false, Option.map_eq_some_iff, Prod.mk.injEq, Prod.exists] at h
    obtain ⟨name', rest', hread, -, rfl⟩ := h
    exact ih hread

theorem head?_ne_of_readQuoted {text name rest : List Char} (h : readQuoted text = some (name, rest)) :
    rest.head? ≠ some backquote := by
  cases text with
  | nil => cases h
  | cons c r =>
    by_cases hc : c = backquote
    · rw [readQuoted, if_pos hc] at h
      exact head?_ne_of_readDoubled h
    · rw [readQuoted, if_neg hc] at h
      cases h

theorem readQuoted_eq_some_iff {text name rest : List Char} :
    readQuoted text = some (name, rest) ↔ text = quotedChars name ++ rest ∧ rest.head? ≠ some backquote := by
  constructor
  · intro h
    exact ⟨reads_quoted.eq_append h, head?_ne_of_readQuoted h⟩
  · rintro ⟨rfl, h⟩
    exact readQuoted_append h

/-! ### tables -/

/-- The table that a text names behind some keywords, if nothing stands behind the name. -/
def readTable (keywords : String) (text : List Char) : Option String := do
  let text ← text.dropPrefix? keywords.toList
  let (table, rest) ← readQuoted text
  if rest.isEmpty then some (String.ofList table) else none

theorem readTable_eq_some_iff {keywords text table : String} :
    readTable keywords text.toList = some table ↔ text = keywords ++ quoteName table := by
  rw [← String.toList_inj, String.toList_append, toList_quoteName]
  unfold readTable
  constructor
  · intro h
    simp only [bind, Option.bind_eq_some_iff, Prod.exists, Option.ite_none_right_eq_some, List.isEmpty_iff,
      Option.some.injEq] at h
    obtain ⟨named, hnamed, name, rest, hread, rfl, rfl⟩ := h
    rw [eq_append_of_dropPrefix? hnamed, reads_quoted.eq_append hread, List.append_nil, String.toList_ofList]
  · intro h
    have hread : readQuoted (quotedChars table.toList ++ []) = some (table.toList, []) := readQuoted_append (by simp)
    rw [List.append_nil] at hread
    rw [h, dropPrefix?_append]
    simp only [bind, Option.bind, hread]
    rw [List.isEmpty_nil, if_pos rfl, String.ofList_toList]

/-- Behind the same keywords, tables are told apart. -/
theorem append_quoteName_injective (keywords : String) : Function.Injective fun table => keywords ++ quoteName table := by
  intro table table' heq
  have hread : readTable keywords (keywords ++ quoteName table).toList = some table := readTable_eq_some_iff.2 rfl
  have hread' : readTable keywords (keywords ++ quoteName table).toList = some table' := readTable_eq_some_iff.2 heq
  exact Option.some.inj (hread.symm.trans hread')

/-- **A name cannot be broken out of.** Whatever stands in it, a quoted name in front of a text is read back with all of that text
left, unless the text goes on with a backquote. So the texts that clear and count a table say that table, no other texts do, and
they differ for different tables. -/
theorem names_stay_quoted :
    (∀ name following : String, readQuoted (quoteName name ++ following).toList = some (name.toList, following.toList) ↔
      following.toList.head? ≠ some backquote) ∧
    (∀ text table : String, readTable "TRUNCATE TABLE " text.toList = some table ↔ text = truncateText table) ∧
    (∀ text table : String, readTable "SELECT COUNT(*) FROM " text.toList = some table ↔ text = countText table) ∧
    Function.Injective truncateText ∧ Function.Injective countText := by
  refine ⟨?_, fun text table => readTable_eq_some_iff, fun text table => readTable_eq_some_iff,
    append_quoteName_injective _, append_quoteName_injective _⟩
  intro name following
  rw [String.toList_append, toList_quoteName, readQuoted_eq_some_iff]
  exact and_iff_right rfl

example : readTable "TRUNCATE TABLE " (truncateText "a\x60; DROP TABLE \x60b").toList = some "a\x60; DROP TABLE \x60b" := by
  decide +kernel

end RowLoader.Sql
