/-!
# Cutting texts

A text before and behind the first, or the last, place of a character, and the pieces between all its places.
-/

namespace RowLoader.Text

/-- The text before the first `c` and, if there is one, the text behind it. -/
def cutFirst (c : Char) : List Char → List Char × Option (List Char)
  | [] => ([], none)
  | x :: r =>
    if x = c then ([], some r)
    else
      let rest := cutFirst c r
      (x :: rest.1, rest.2)

theorem cutFirst_append {c : Char} {s : List Char} (h : c ∉ s) (r : List Char) :
    cutFirst c (s ++ c :: r) = (s, some r) := by
  induction s with
  | nil => simp [cutFirst]
  | cons x s ih =>
    simp only [List.mem_cons, not_or] at h
    simp [cutFirst, ih h.2, Ne.symm h.1]

theorem cutFirst_of_not_mem {c : Char} {s : List Char} (h : c ∉ s) : cutFirst c s = (s, none) := by
  induction s with
  | nil => rfl
  | cons x s ih =>
    simp only [List.mem_cons, not_or] at h
    simp [cutFirst, ih h.2, Ne.symm h.1]

/-- The text behind the last `c` and, if there is one, the text before it. -/
def cutLast (c : Char) (s : List Char) : List Char × Option (List Char) :=
  let cut := cutFirst c s.reverse
  (cut.1.reverse, cut.2.map List.reverse)

theorem cutLast_append {c : Char} {behind : List Char} (h : c ∉ behind) (before : List Char) :
    cutLast c (before ++ c :: behind) = (behind, some before) := by
  have hmem : c ∉ behind.reverse := by simpa using h
  simp [cutLast, cutFirst_append hmem]

theorem cutLast_of_not_mem {c : Char} {s : List Char} (h : c ∉ s) : cutLast c s = (s, none) := by
  have hmem : c ∉ s.reverse := by simpa using h
  simp [cutLast, cutFirst_of_not_mem hmem]

/-- The texts between the places of `c`; there is one more of them than places. -/
def pieces (c : Char) : List Char → List (List Char)
  | [] => [[]]
  | x :: r =>
    if x = c then [] :: pieces c r
    else
      match pieces c r with
      | [] => [[x]]
      | piece :: rest => (x :: piece) :: rest

theorem pieces_append {c : Char} {s : List Char} (h : c ∉ s) (r : List Char) :
    pieces c (s ++ c :: r) = s :: pieces c r := by
  induction s with
  | nil => simp [pieces]
  | cons x s ih =>
    simp only [List.mem_cons, not_or] at h
    simp [pieces, ih h.2, Ne.symm h.1]

end RowLoader.Text
