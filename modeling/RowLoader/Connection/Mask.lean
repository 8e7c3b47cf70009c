/-!
# Masking passwords

`maskPassword` replaces what stands between the first colon behind the scheme and the last `@` of a connection URL by
three asterisks. A text without such a place is left as it is.
-/

namespace RowLoader.Connection

/-! ### places in a text -/

/-- The text before and behind the last `c`. -/
def splitLast (c : Char) : List Char → Option (List Char × List Char)
  | [] => none
  | x :: r =>
    match splitLast c r with
    | some (before, behind) => some (x :: before, behind)
    | none => if x = c then some ([], r) else none

theorem splitLast_eq_none_iff {c : Char} {s : List Char} : splitLast c s = none ↔ c ∉ s := by
  induction s with
  | nil => simp [splitLast]
  | cons x r ih =>
    unfold splitLast
    split
    · rename_i h
      have hr : c ∈ r := Classical.byContradiction fun hn => by rw [ih.2 hn] at h; cases h
      simp [hr]
    · rename_i h
      split
      · rename_i hx; simp [hx]
      · rename_i hx
        simp only [List.mem_cons, not_or, true_iff]
        exact ⟨fun e => hx e.symm, ih.1 h⟩

theorem eq_of_splitLast {c : Char} {s before behind : List Char} (h : splitLast c s = some (before, behind)) :
    s = before ++ c :: behind ∧ c ∉ behind := by
  induction s generalizing before with
  | nil => cases h
  | cons x r ih =>
    unfold splitLast at h
    split at h
    · rename_i b a hr
      cases h
      obtain ⟨rfl, ha⟩ := ih hr
      exact ⟨rfl, ha⟩
    · rename_i hr
      split at h
      · rename_i hx
        cases h
        exact ⟨by rw [hx]; rfl, splitLast_eq_none_iff.1 hr⟩
      · cases h

/-- The number of characters up to the end of the first `://`, none of them if there is no such mark. -/
def schemeLength : List Char → Option Nat
  | [] => none
  | c :: r => if (c :: r).take 3 = [':', '/', '/'] then some 3 else (schemeLength r).map (· + 1)

/-- Where the part that may hold a user and a password starts. -/
def authorityStart (s : List Char) : Nat := (schemeLength s).getD 0

/-! ### the mask -/

def maskChars (s : List Char) : List Char :=
  match splitLast '@' s with
  | none => s
  | some (before, behind) =>
    match (before.drop (authorityStart s)).idxOf? ':' with
    | none => s
    | some i => before.take (authorityStart s + i) ++ ":***@".toList ++ behind

def maskPassword (url : String) : String := String.ofList (maskChars url.toList)

theorem toList_maskPassword (url : String) : (maskPassword url).toList = maskChars url.toList :=
  String.toList_ofList

end RowLoader.Connection
