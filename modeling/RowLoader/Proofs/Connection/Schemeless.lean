import Mathlib.Data.List.Basic
import RowLoader.Proofs.Connection.Authority

/-!
# Masks of texts without a scheme

A text may start with a user and a password. The first `://` is looked for in all of it, so one that stands in the password
or behind it is taken for the end of a scheme, and what stands in front of it is shown. Without such a mark the password is
hidden.

* `schemeLength_append_mark`, `colon_mem_of_mark`: what stands in front of the authority;
* `maskChars_eq_stars_iff`: the texts of which the password is hidden;
* `maskPassword_hides_without_scheme`: the same of strings, and what is shown of all others.
-/

namespace RowLoader.Connection

/-! ### the end of a scheme -/

/-- The first `://` of a text is the one that none before it overlaps. -/
theorem schemeLength_append_mark {shown : List Char} (h : ¬ "://".toList <:+: shown ++ [':', '/']) (kept : List Char) :
    schemeLength (shown ++ ':' :: '/' :: '/' :: kept) = some (shown.length + 3) := by
  induction shown with
  | nil => rfl
  | cons x shown ih =>
    rw [List.cons_append, List.infix_cons_iff, not_or] at h
    have htake : (x :: (shown ++ ':' :: '/' :: '/' :: kept)).take 3 = (x :: (shown ++ [':', '/'])).take 3 := by
      have happend : shown ++ ':' :: '/' :: '/' :: kept = (shown ++ [':', '/']) ++ '/' :: kept := by simp
      rw [happend, ← List.cons_append, List.take_append_of_le_length (by simp)]
    rw [List.cons_append, schemeLength, htake, if_neg (mt take_eq_mark_iff.1 h.1), ih h.2]
    rfl

/-- The text up to the end of the first `://` holds a colon. -/
theorem colon_mem_of_mark {front rest : List Char} (hlength : front.length = authorityStart (front ++ rest))
    (hmark : "://".toList <:+: front ++ rest) : ':' ∈ front := by
  cases h : schemeLength (front ++ rest) with
  | none => exact absurd hmark (schemeLength_eq_none_iff.1 h)
  | some n =>
    have hn : front.length = n := by rw [hlength, authorityStart, h, Option.getD_some]
    have hfront : schemeLength front = some n := by
      have htake := schemeLength_take_append h []
      rwa [List.append_nil, List.take_left' hn] at htake
    have hinfix : "://".toList <:+: front := by
      apply Classical.byContradiction
      intro hnone
      rw [schemeLength_eq_none_iff.2 hnone] at hfront
      cases hfront
    exact hinfix.subset (by simp)

/-! ### a user, a password and what stands behind them -/

section Bare

variable {user : List Char} (huser : ':' ∉ user) (password rest : List Char)
include huser

theorem maskChars_of_no_mark (h : ¬ "://".toList <:+: user ++ ':' :: password ++ '@' :: rest) :
    maskChars (user ++ ':' :: password ++ '@' :: rest) = user ++ ":***@".toList ++ (Text.cutLast '@' rest).1 := by
  obtain ⟨more, hmore⟩ := exists_splitLast_cons '@' rest
  obtain ⟨hrest, hbehind⟩ := eq_of_splitLast hmore
  have hstart : authorityStart (user ++ ':' :: password ++ '@' :: rest) = 0 := by
    rw [authorityStart, schemeLength_eq_none_iff.2 h, Option.getD_none]
  have htext : user ++ ':' :: password ++ '@' :: rest =
      user ++ ':' :: (password ++ more) ++ '@' :: (Text.cutLast '@' rest).1 := by
    rw [hrest]
    simp
  rw [maskChars_eq, hstart, List.take_zero, List.drop_zero, List.nil_append, htext, maskAuthority_of_places huser hbehind]

/-- Three asterisks are masked by themselves, wherever the search for a colon starts. -/
theorem maskChars_of_stars (h : '@' ∉ rest) :
    maskChars (user ++ ':' :: "***".toList ++ '@' :: rest) = user ++ ':' :: "***".toList ++ '@' :: rest := by
  rcases maskChars_cases (user ++ ':' :: "***".toList ++ '@' :: rest) with
    ⟨hsame, -⟩ | ⟨front, user', secret, behind, hs, -, -, hbehind, hmask⟩
  · exact hsame
  · have hsplit := splitLast_of_append h (user ++ ':' :: "***".toList)
    rw [hs, splitLast_of_append hbehind, Option.some.injEq, Prod.mk.injEq] at hsplit
    obtain ⟨hplace, rfl⟩ := hsplit
    -- there is one colon only before the `@`
    have hstars : ':' ∉ "***".toList := by decide
    obtain ⟨rfl, -, rfl⟩ := (List.append_cons_inj_of_notMem huser hstars).1 hplace.symm
    rw [hmask]
    simp

/-- Where a `://` stands in the text, the password is not hidden. Asterisks alone look as if they were. -/
theorem eq_stars_of_mark (hmark : "://".toList <:+: user ++ ':' :: password ++ '@' :: rest)
    (h : maskChars (user ++ ':' :: password ++ '@' :: rest) = user ++ ":***@".toList ++ (Text.cutLast '@' rest).1) :
    password = "***".toList ∧ '@' ∉ rest := by
  obtain ⟨more, hmore⟩ := exists_splitLast_cons '@' rest
  obtain ⟨hrest, htail⟩ := eq_of_splitLast hmore
  have hstars : splitLast '@' (user ++ ":***@".toList ++ (Text.cutLast '@' rest).1) =
      some (user ++ ':' :: "***".toList, (Text.cutLast '@' rest).1) := by
    rw [← splitLast_of_append htail]
    simp
  rcases maskChars_cases (user ++ ':' :: password ++ '@' :: rest) with
    ⟨hsame, -⟩ | ⟨front, user', secret, behind, hs, hlength, -, hbehind, hmask⟩
  · -- nothing is masked, so the asterisks stand in the text itself
    rw [← h, hsame, splitLast_append hmore, Option.some.injEq, Prod.mk.injEq, List.append_assoc,
      List.append_cancel_left_eq, List.cons_append, List.cons.injEq] at hstars
    obtain ⟨⟨-, hpassword⟩, -⟩ := hstars
    cases more with
    | nil =>
      rw [List.nil_append, List.cons.injEq] at hrest
      rw [List.append_nil] at hpassword
      rw [← hrest.2] at htail
      exact ⟨hpassword, htail⟩
    | cons c more =>
      rw [List.cons_append, List.cons.injEq] at hrest
      have hat : '@' ∈ "***".toList := by
        rw [← hpassword, ← hrest.1]
        simp
      exact absurd hat (by decide)
  · -- what is kept in front of the authority holds a colon, and the user holds none
    have hmask' : maskChars (user ++ ':' :: password ++ '@' :: rest) =
        front ++ user' ++ ':' :: "***".toList ++ '@' :: behind := by
      rw [hmask]
      simp
    rw [← h, hmask', splitLast_of_append hbehind, Option.some.injEq, Prod.mk.injEq, List.append_cancel_right_eq] at hstars
    rw [hs] at hlength hmark
    simp only [List.append_assoc] at hlength hmark
    have hcolon := colon_mem_of_mark hlength hmark
    rw [← hstars.1] at huser
    exact absurd (List.mem_append_left user' hcolon) huser

theorem maskChars_eq_stars_iff :
    maskChars (user ++ ':' :: password ++ '@' :: rest) = user ++ ":***@".toList ++ (Text.cutLast '@' rest).1 ↔
      ¬ "://".toList <:+: user ++ ':' :: password ++ '@' :: rest ∨ password = "***".toList ∧ '@' ∉ rest := by
  constructor
  · intro h
    by_cases hmark : "://".toList <:+: user ++ ':' :: password ++ '@' :: rest
    · right
      exact eq_stars_of_mark huser password rest hmark h
    · left
      exact hmark
  · rintro (hmark | ⟨rfl, hrest⟩)
    · exact maskChars_of_no_mark huser password rest hmark
    · rw [maskChars_of_stars huser rest hrest, Text.cutLast_of_not_mem hrest]
      simp

end Bare

theorem toList_bare (user password rest : String) :
    (user ++ ":" ++ password ++ "@" ++ rest).toList = user.toList ++ ':' :: password.toList ++ '@' :: rest.toList := by
  simp [String.toList_append]

/-- **Without a scheme, a password is hidden where no `://` follows the user.** A text of a user, a password and more is
masked alike for all passwords as long as it holds no `://`. With one, in the password or behind it, the text up to its end is
shown, so only a password of three asterisks looks hidden. -/
theorem maskPassword_hides_without_scheme (user rest : String) (huser : ':' ∉ user.toList) :
    (∀ p q : String, ¬ "://".toList <:+: (user ++ ":" ++ p ++ "@" ++ rest).toList →
      ¬ "://".toList <:+: (user ++ ":" ++ q ++ "@" ++ rest).toList →
      maskPassword (user ++ ":" ++ p ++ "@" ++ rest) = maskPassword (user ++ ":" ++ q ++ "@" ++ rest)) ∧
    (∀ p : String, maskPassword (user ++ ":" ++ p ++ "@" ++ rest) =
        user ++ ":***@" ++ String.ofList (Text.cutLast '@' rest.toList).1 ↔
      ¬ "://".toList <:+: (user ++ ":" ++ p ++ "@" ++ rest).toList ∨ p = "***" ∧ '@' ∉ rest.toList) ∧
    ∀ p shown kept : String, user ++ ":" ++ p ++ "@" ++ rest = shown ++ "://" ++ kept →
      ¬ "://".toList <:+: (shown ++ ":/").toList →
      maskPassword (user ++ ":" ++ p ++ "@" ++ rest) = shown ++ "://" ++ String.ofList (maskAuthority kept.toList) := by
  have hhides : ∀ p : String, maskPassword (user ++ ":" ++ p ++ "@" ++ rest) =
        user ++ ":***@" ++ String.ofList (Text.cutLast '@' rest.toList).1 ↔
      ¬ "://".toList <:+: (user ++ ":" ++ p ++ "@" ++ rest).toList ∨ p = "***" ∧ '@' ∉ rest.toList := by
    intro p
    have hiff := maskChars_eq_stars_iff huser p.toList rest.toList
    have hstars : p = "***" ↔ p.toList = "***".toList := String.toList_inj.symm
    rw [← String.toList_inj, toList_maskPassword, toList_bare, hstars, ← hiff]
    simp only [String.toList_append, String.toList_ofList]
  refine ⟨?_, hhides, ?_⟩
  · intro p q hp hq
    rw [(hhides p).2 (Or.inl hp), (hhides q).2 (Or.inl hq)]
  · intro p shown kept htext hfirst
    have hnone : ¬ "://".toList <:+: shown.toList ++ [':', '/'] := by simpa using hfirst
    have hlength : schemeLength (shown.toList ++ "://".toList ++ kept.toList) =
        some (shown.toList ++ "://".toList).length := by
      simpa using schemeLength_append_mark hnone kept.toList
    rw [htext, ← String.toList_inj, toList_maskPassword]
    simp only [String.toList_append, String.toList_ofList]
    rw [maskChars_eq, authorityStart, hlength, Option.getD_some, List.take_left' rfl, List.drop_left' rfl]

/-- Slashes alone do no harm. A password with a `://` is shown as a whole, or up to a colon behind that mark. -/
theorem maskPassword_hides_without_scheme_of_mark : ':' ∉ "root".toList ∧
    maskPassword "root:a//b@h" = maskPassword "root:@h" ∧
    maskPassword "root:p://w@h" = "root:p://w@h" ∧ maskPassword "root:p://u:w@h" = "root:p://u:***@h" := by
  have huser : ':' ∉ "root".toList := by decide
  obtain ⟨halike, -, hshown⟩ := maskPassword_hides_without_scheme "root" "h" huser
  refine ⟨huser, ?_, ?_, ?_⟩
  · exact halike "a//b" "" (by decide +kernel) (by decide +kernel)
  · exact hshown "p://w" "root:p" "w@h" (by decide +kernel) (by decide +kernel)
  · exact hshown "p://u:w" "root:p" "u:w@h" (by decide +kernel) (by decide +kernel)

/-- So not every password is masked alike. -/
theorem maskPassword_shows_password : ¬ ∀ user rest p q : String, ':' ∉ user.toList → '@' ∉ user.toList →
    maskPassword (user ++ ":" ++ p ++ "@" ++ rest) = maskPassword (user ++ ":" ++ q ++ "@" ++ rest) := by
  intro h
  have hsame : maskPassword "root:p://w@h" = maskPassword "root:pw@h" := h "root" "h" "p://w" "pw" (by decide) (by decide)
  exact absurd hsame (by decide +kernel)

end RowLoader.Connection
