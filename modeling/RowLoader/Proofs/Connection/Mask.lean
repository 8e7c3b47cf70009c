import RowLoader.Connection.Mask
import RowLoader.Text.Cut

/-!
# What a mask hides

A masked URL tells nothing of the password, whatever separators stand in it: of two URLs that differ in the password only, the
masks are equal.

* `splitLast_append`, `schemeLength_append`: where the last `@` and the first `://` of a joined text are;
* `maskChars_of_places`: what a mask keeps, told from the places of its separators;
* `maskPassword_hides`: URLs with a scheme, a user and a password.
-/

namespace RowLoader.Connection

/-! ### places in joined texts -/

theorem splitLast_append {c : Char} {s t before behind : List Char} (h : splitLast c t = some (before, behind)) :
    splitLast c (s ++ t) = some (s ++ before, behind) := by
  induction s with
  | nil => exact h
  | cons x s ih => simp only [List.cons_append, splitLast, ih]

/-- A text is cut behind its last `c` alike, whatever else is kept of it. -/
theorem exists_splitLast_cons (c : Char) (s : List Char) :
    ∃ before, splitLast c (c :: s) = some (before, (Text.cutLast c s).1) := by
  unfold splitLast
  cases h : splitLast c s with
  | none =>
    rw [Text.cutLast_of_not_mem (splitLast_eq_none_iff.1 h)]
    exact ⟨[], if_pos rfl⟩
  | some places =>
    obtain ⟨before, behind⟩ := places
    obtain ⟨rfl, hbehind⟩ := eq_of_splitLast h
    rw [Text.cutLast_append hbehind]
    exact ⟨c :: before, rfl⟩

/-- A scheme holds no colon, so the first `://` is the one behind it. -/
theorem schemeLength_append {scheme : List Char} (h : ':' ∉ scheme) (rest : List Char) :
    schemeLength (scheme ++ ':' :: '/' :: '/' :: rest) = some (scheme.length + 3) := by
  induction scheme with
  | nil => rfl
  | cons x scheme ih =>
    simp only [List.mem_cons, not_or] at h
    obtain ⟨hx, h⟩ := h
    rw [List.cons_append, schemeLength, ih h, if_neg]
    · rfl
    · intro htake
      rw [List.take_succ_cons, List.cons.injEq] at htake
      exact hx htake.1.symm

theorem idxOf?_append {c : Char} {s : List Char} (h : c ∉ s) (rest : List Char) :
    (s ++ c :: rest).idxOf? c = some s.length := by
  induction s with
  | nil => simp [List.idxOf?_cons]
  | cons x s ih =>
    simp only [List.mem_cons, not_or] at h
    obtain ⟨hx, h⟩ := h
    have hne : (x == c) = false := by simpa using Ne.symm hx
    rw [List.cons_append, List.idxOf?_cons, hne, ih h]
    rfl

/-! ### what a mask keeps -/

/-- Nothing between the first colon of the authority and the last `@` is kept. -/
theorem maskChars_of_places {s front user secret behind : List Char} (hstart : authorityStart s = front.length)
    (huser : ':' ∉ user) (hlast : splitLast '@' s = some (front ++ (user ++ ':' :: secret), behind)) :
    maskChars s = front ++ user ++ ":***@".toList ++ behind := by
  have htake : (front ++ (user ++ ':' :: secret)).take (front.length + user.length) = front ++ user := by
    rw [← List.append_assoc, ← List.length_append]
    exact List.take_left' rfl
  unfold maskChars
  rw [hlast]
  simp only [hstart, List.drop_left' rfl, idxOf?_append huser, htake]

theorem maskChars_url {scheme user : List Char} (hscheme : ':' ∉ scheme) (huser : ':' ∉ user) (password rest : List Char) :
    maskChars (scheme ++ "://".toList ++ user ++ ":".toList ++ password ++ "@".toList ++ rest) =
      scheme ++ "://".toList ++ user ++ ":***@".toList ++ (Text.cutLast '@' rest).1 := by
  obtain ⟨before, hbefore⟩ := exists_splitLast_cons '@' rest
  have htext : scheme ++ "://".toList ++ user ++ ":".toList ++ password ++ "@".toList ++ rest =
      (scheme ++ "://".toList) ++ (user ++ ':' :: password) ++ '@' :: rest := by
    simp
  have hstart : authorityStart ((scheme ++ "://".toList) ++ (user ++ ':' :: password) ++ '@' :: rest) =
      (scheme ++ "://".toList).length := by
    have hlength := schemeLength_append hscheme (user ++ ':' :: password ++ '@' :: rest)
    unfold authorityStart
    simp only [String.reduceToList, List.append_assoc, List.cons_append, List.nil_append] at hlength ⊢
    rw [hlength]
    simp
  have hlast : splitLast '@' ((scheme ++ "://".toList) ++ (user ++ ':' :: password) ++ '@' :: rest) =
      some ((scheme ++ "://".toList) ++ (user ++ ':' :: (password ++ before)), (Text.cutLast '@' rest).1) := by
    rw [splitLast_append hbefore]
    simp
  rw [htext]
  exact maskChars_of_places hstart huser hlast

/-- **The password never influences the mask.** Of a URL with a scheme, a user and a password, the mask keeps the scheme, the
user and what stands behind the last `@`, so it is the same for every other password. -/
theorem maskPassword_hides (scheme user rest p q : String) (hscheme : ':' ∉ scheme.toList) (huser : ':' ∉ user.toList) :
    maskPassword (scheme ++ "://" ++ user ++ ":" ++ p ++ "@" ++ rest) =
      maskPassword (scheme ++ "://" ++ user ++ ":" ++ q ++ "@" ++ rest) ∧
    maskPassword (scheme ++ "://" ++ user ++ ":" ++ p ++ "@" ++ rest) =
      scheme ++ "://" ++ user ++ ":***@" ++ String.ofList (Text.cutLast '@' rest.toList).1 := by
  have hmask : ∀ password : String, maskPassword (scheme ++ "://" ++ user ++ ":" ++ password ++ "@" ++ rest) =
      scheme ++ "://" ++ user ++ ":***@" ++ String.ofList (Text.cutLast '@' rest.toList).1 := by
    intro password
    rw [← String.toList_inj, toList_maskPassword]
    simp only [String.toList_append, String.toList_ofList]
    exact maskChars_url hscheme huser password.toList rest.toList
  exact ⟨(hmask p).trans (hmask q).symm, hmask p⟩

/-- A password that looks like the rest of a URL, and none at all. -/
theorem maskPassword_hides_separators :
    (':' ∉ "mysql".toList ∧ ':' ∉ "root".toList) ∧
    maskPassword "mysql://root:é:b@c://d@db@1:3306/x" = maskPassword "mysql://root:@db@1:3306/x" ∧
    maskPassword "mysql://root:é:b@c://d@db@1:3306/x" = "mysql://root:***@1:3306/x" := by
  have hscheme : ':' ∉ "mysql".toList := by decide
  have huser : ':' ∉ "root".toList := by decide
  exact ⟨⟨hscheme, huser⟩, maskPassword_hides "mysql" "root" "db@1:3306/x" "é:b@c://d" "" hscheme huser⟩

end RowLoader.Connection
