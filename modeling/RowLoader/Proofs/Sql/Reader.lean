import Mathlib.Data.List.Basic
import RowLoader.Sql.Statement

/-!
# Reading names and lists

What the texts of statements are made of: quoted names, whatever stands in them, and items with a separator between them.

* `readQuoted_append`: a quoted name in front of a text;
* `readSeparated`, `readSeparated_intercalate`: a list of items.
-/

namespace RowLoader.Sql

/-! ### quoted names -/

theorem readDoubled_doubled {name rest : List Char} (h : rest.head? ≠ some backquote) :
    readDoubled (doubled name ++ backquote :: rest) = some (name, rest) := by
  induction name with
  | nil =>
    change readDoubled (backquote :: rest) = _
    cases rest with
    | nil => simp [readDoubled]
    | cons d r =>
      have hd : d ≠ backquote := by simpa using h
      simp [readDoubled, hd]
  | cons c name ih =>
    unfold doubled
    split
    · rename_i hc
      subst hc
      simp [readDoubled, ih]
    · rename_i hc
      cases hmore : doubled name ++ backquote :: rest with
      | nil => simp at hmore
      | cons d r =>
        rw [hmore] at ih
        rw [List.cons_append, hmore]
        simp [readDoubled, hc, ih]

/-- A quoted name is read back, unless its closing quote is followed by another one. -/
theorem readQuoted_append {name rest : List Char} (h : rest.head? ≠ some backquote) :
    readQuoted (quotedChars name ++ rest) = some (name, rest) := by
  unfold quotedChars
  rw [List.cons_append, List.append_assoc]
  change (if backquote = backquote then readDoubled _ else none) = _
  rw [if_pos rfl]
  exact readDoubled_doubled h

/-! ### separated items -/

def separator : List Char := ", ".toList

/-- Items with a separator between them, and the text behind the last. -/
def readSeparated {α : Type} (item : List Char → Option (α × List Char)) (text : List Char) :
    Option (List α × List Char) :=
  match item text with
  | none => none
  | some (a, rest) =>
    match rest.dropPrefix? separator with
    | none => some ([a], rest)
    | some more =>
      if more.length < text.length then (readSeparated item more).map fun p => (a :: p.1, p.2) else none
termination_by text.length

theorem dropPrefix?_append (front rest : List Char) : (front ++ rest).dropPrefix? front = some rest :=
  List.dropPrefix?_append_of_beq rest (beq_self_eq_true front)

/-- If every item is read back in front of a separator and in front of `last`, so is the whole list in front of `last`. -/
theorem readSeparated_intercalate {α : Type} {item : List Char → Option (α × List Char)} {write : α → List Char}
    {last : List Char} (hlast : last.dropPrefix? separator = none) {values : List α} (hne : values ≠ [])
    (hsep : ∀ v ∈ values, ∀ more, item (write v ++ (separator ++ more)) = some (v, separator ++ more))
    (hend : ∀ v ∈ values, item (write v ++ last) = some (v, last)) :
    readSeparated item (separator.intercalate (values.map write) ++ last) = some (values, last) := by
  induction values with
  | nil => exact absurd rfl hne
  | cons v rest ih =>
    cases rest with
    | nil =>
      rw [List.map_cons, List.map_nil, List.intercalate_singleton, readSeparated, hend v List.mem_cons_self]
      simp only [hlast]
    | cons w rest =>
      have htail := ih (List.cons_ne_nil _ _) (fun v hv => hsep v (List.mem_cons_of_mem _ hv))
        (fun v hv => hend v (List.mem_cons_of_mem _ hv))
      have hshorter : ∀ front text : List Char, text.length < (front ++ (separator ++ text)).length := by
        intro front text
        rw [List.length_append, List.length_append]
        change _ < _ + (2 + _)
        omega
      rw [List.map_cons, List.map_cons, List.intercalate_cons_cons, List.append_assoc, List.append_assoc, readSeparated,
        hsep v List.mem_cons_self]
      simp only [dropPrefix?_append]
      rw [if_pos (hshorter _ _), ← List.map_cons, htail]
      rfl

end RowLoader.Sql
