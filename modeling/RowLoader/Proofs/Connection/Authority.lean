import RowLoader.Proofs.Connection.Mask

/-!
# What a mask changes

A text is kept up to the end of its first `://`, and what stands behind it is masked as if it were a text of its own. So a
second mask finds the places of the first, and nothing but the text between two of its separators is lost.

* `schemeLength_eq_none_iff`, `schemeLength_take_append`: the first `://`;
* `maskAuthority`, `maskChars_eq`: what is done to the text behind it;
* `maskChars_cases`: the two things that can happen to a text;
* `maskPassword_idempotent`: a mask of a mask, and what any text loses.
-/

namespace RowLoader.Connection

/-! ### the first `://` -/

theorem take_eq_mark_iff {s : List Char} : s.take 3 = [':', '/', '/'] ↔ "://".toList <+: s := by
  rw [List.prefix_iff_eq_take]
  exact eq_comm

theorem schemeLength_eq_none_iff {s : List Char} : schemeLength s = none ↔ ¬ "://".toList <:+: s := by
  induction s with
  | nil => simp [schemeLength]
  | cons c r ih =>
    unfold schemeLength
    rw [List.infix_cons_iff]
    by_cases h : (c :: r).take 3 = [':', '/', '/']
    · rw [if_pos h]
      simp only [take_eq_mark_iff.1 h, true_or, not_true_eq_false, reduceCtorEq]
    · rw [if_neg h, Option.map_eq_none_iff, ih]
      simp only [mt take_eq_mark_iff.2 h, false_or]

theorem schemeLength_cons_of_ne {c : Char} (h : c ≠ ':') (s : List Char) :
    schemeLength (c :: s) = (schemeLength s).map (· + 1) := by
  have hmark : (c :: s).take 3 ≠ [':', '/', '/'] := by
    intro htake
    rw [List.take_succ_cons, List.cons.injEq] at htake
    exact h htake.1
  rw [schemeLength, if_neg hmark]

theorem schemeLength_bounds {s : List Char} {n : Nat} (h : schemeLength s = some n) : 3 ≤ n ∧ n ≤ s.length := by
  induction s generalizing n with
  | nil => cases h
  | cons c r ih =>
    unfold schemeLength at h
    split at h
    · rename_i hmark
      cases h
      have hlength := congrArg List.length hmark
      simp at hlength ⊢
      omega
    · obtain ⟨m, hm, rfl⟩ := Option.map_eq_some_iff.1 h
      obtain ⟨hge, hle⟩ := ih hm
      simp
      omega

/-- Where the first `://` ends is told by the text up to there. -/
theorem schemeLength_take_append {s : List Char} {n : Nat} (h : schemeLength s = some n) (t : List Char) :
    schemeLength (s.take n ++ t) = some n := by
  induction s generalizing n with
  | nil => cases h
  | cons c r ih =>
    unfold schemeLength at h
    split at h
    · rename_i hmark
      cases h
      rw [hmark]
      rfl
    · rename_i hmark
      obtain ⟨m, hm, rfl⟩ := Option.map_eq_some_iff.1 h
      obtain ⟨hge, hle⟩ := schemeLength_bounds hm
      -- a mark at the first place would lie within the part that is kept
      have htake : (c :: (r.take m ++ t)).take 3 = (c :: r).take 3 := by
        rw [List.take_succ_cons, List.take_succ_cons, List.take_append_of_le_length (by simp; omega), List.take_take,
          Nat.min_eq_left (by omega)]
      rw [List.take_succ_cons, List.cons_append, schemeLength, htake, if_neg hmark, ih hm]
      rfl

theorem authorityStart_le (s : List Char) : authorityStart s ≤ s.length := by
  unfold authorityStart
  cases h : schemeLength s with
  | none => exact Nat.zero_le _
  | some n => exact (schemeLength_bounds h).2

theorem length_take_authorityStart (s : List Char) : (s.take (authorityStart s)).length = authorityStart s := by
  rw [List.length_take, Nat.min_eq_left (authorityStart_le s)]

/-! ### behind it -/

/-- The mask of a text in which no scheme is looked for. -/
def maskAuthority (s : List Char) : List Char :=
  match splitLast '@' s with
  | none => s
  | some (before, behind) =>
    match Text.cutFirst ':' before with
    | (_, none) => s
    | (user, some _) => user ++ ":***@".toList ++ behind

theorem splitLast_of_append {c : Char} {behind : List Char} (h : c ∉ behind) (before : List Char) :
    splitLast c (before ++ c :: behind) = some (before, behind) := by
  have hlast : splitLast c (c :: behind) = some ([], behind) := by
    simp [splitLast, splitLast_eq_none_iff.2 h]
  rw [splitLast_append hlast, List.append_nil]

theorem maskAuthority_of_places {user behind : List Char} (huser : ':' ∉ user) (hbehind : '@' ∉ behind) (secret : List Char) :
    maskAuthority (user ++ ':' :: secret ++ '@' :: behind) = user ++ ":***@".toList ++ behind := by
  unfold maskAuthority
  rw [splitLast_of_append hbehind]
  simp only [Text.cutFirst_append huser]

theorem maskAuthority_of_no_colon {before behind : List Char} (hbefore : ':' ∉ before) (hbehind : '@' ∉ behind) :
    maskAuthority (before ++ '@' :: behind) = before ++ '@' :: behind := by
  unfold maskAuthority
  rw [splitLast_of_append hbehind]
  simp only [Text.cutFirst_of_not_mem hbefore]

theorem maskAuthority_of_no_at {s : List Char} (h : '@' ∉ s) : maskAuthority s = s := by
  unfold maskAuthority
  rw [splitLast_eq_none_iff.2 h]

/-- Either no colon stands before an `@`, or the text between the first colon and the last `@` is lost. -/
theorem maskAuthority_cases (s : List Char) :
    (maskAuthority s = s ∧ ∀ user secret behind, s ≠ user ++ ':' :: secret ++ '@' :: behind) ∨
    ∃ user secret behind, s = user ++ ':' :: secret ++ '@' :: behind ∧ ':' ∉ user ∧ '@' ∉ behind ∧
      maskAuthority s = user ++ ":***@".toList ++ behind := by
  cases hlast : splitLast '@' s with
  | none =>
    left
    have hat : '@' ∉ s := splitLast_eq_none_iff.1 hlast
    refine ⟨maskAuthority_of_no_at hat, ?_⟩
    rintro user secret behind rfl
    simp at hat
  | some places =>
    obtain ⟨before, behind⟩ := places
    obtain ⟨rfl, hbehind⟩ := eq_of_splitLast hlast
    by_cases hcolon : ':' ∈ before
    · right
      obtain ⟨user, secret, rfl, huser⟩ := List.eq_append_cons_of_mem hcolon
      exact ⟨user, secret, behind, rfl, huser, hbehind, maskAuthority_of_places huser hbehind secret⟩
    · left
      refine ⟨maskAuthority_of_no_colon hcolon hbehind, ?_⟩
      intro user secret behind' htext
      -- the last `@` stands where this one does or later, so the colon stands before it
      obtain ⟨more, hmore⟩ := exists_splitLast_cons '@' behind'
      have hsplit := splitLast_append (s := user ++ ':' :: secret) hmore
      rw [← htext, hlast, Option.some.injEq, Prod.mk.injEq] at hsplit
      apply hcolon
      rw [hsplit.1]
      simp

/-- A text is masked behind its first `://` only, and there as if it were a text of its own. -/
theorem maskChars_eq (s : List Char) :
    maskChars s = s.take (authorityStart s) ++ maskAuthority (s.drop (authorityStart s)) := by
  have hlength := length_take_authorityStart s
  rcases maskAuthority_cases (s.drop (authorityStart s)) with
    ⟨hsame, hnone⟩ | ⟨user, secret, behind, htext, huser, hbehind, hmask⟩
  · rw [hsame, List.take_append_drop]
    unfold maskChars
    cases hlast : splitLast '@' s with
    | none => rfl
    | some places =>
      obtain ⟨before, behind⟩ := places
      obtain ⟨hs, -⟩ := eq_of_splitLast hlast
      have hcolon : ':' ∉ before.drop (authorityStart s) := by
        intro hmem
        obtain ⟨user, secret, hbefore⟩ := List.append_of_mem hmem
        have hle : authorityStart s ≤ before.length := by
          rcases Nat.le_or_le (authorityStart s) before.length with hle | hge
          · exact hle
          · rw [List.drop_of_length_le hge] at hmem
            cases hmem
        apply hnone user secret behind
        rw [← hbefore, ← List.drop_append_of_le_length hle, ← hs]
      simp only [List.idxOf?_eq_none_iff.2 hcolon]
  · rw [hmask]
    have hs : s = s.take (authorityStart s) ++ (user ++ ':' :: secret) ++ '@' :: behind := by
      rw [List.append_assoc, ← htext, List.take_append_drop]
    have hlast : splitLast '@' s = some (s.take (authorityStart s) ++ (user ++ ':' :: secret), behind) := by
      rw [← splitLast_of_append hbehind, ← hs]
    rw [maskChars_of_places hlength.symm huser hlast]
    simp only [List.append_assoc]

/-! ### masks of masks -/

theorem schemeLength_append_of_no_colon {s t : List Char} (hs : ':' ∉ s) (ht : schemeLength t = none) :
    schemeLength (s ++ t) = none := by
  induction s with
  | nil => exact ht
  | cons x s ih =>
    rw [List.mem_cons, not_or] at hs
    rw [List.cons_append, schemeLength_cons_of_ne (Ne.symm hs.1), ih hs.2]
    rfl

/-- What is put in place of a password makes no new `://`. -/
theorem schemeLength_maskAuthority {s : List Char} (h : schemeLength s = none) : schemeLength (maskAuthority s) = none := by
  rcases maskAuthority_cases s with ⟨hsame, -⟩ | ⟨user, secret, behind, rfl, huser, -, hmask⟩
  · rw [hsame, h]
  · have hbehind : schemeLength behind = none := by
      rw [schemeLength_eq_none_iff] at h ⊢
      intro hmark
      apply h
      exact hmark.trans ⟨user ++ ':' :: secret ++ ['@'], [], by simp⟩
    have hstars : schemeLength (":***@".toList ++ behind) = none := by
      simp [schemeLength, hbehind]
    rw [hmask, List.append_assoc]
    exact schemeLength_append_of_no_colon huser hstars

theorem authorityStart_maskChars (s : List Char) : authorityStart (maskChars s) = authorityStart s := by
  cases h : schemeLength s with
  | none =>
    have hstart : authorityStart s = 0 := by simp only [authorityStart, h, Option.getD_none]
    rw [maskChars_eq, hstart, List.take_zero, List.drop_zero, List.nil_append, authorityStart, schemeLength_maskAuthority h]
    rfl
  | some n =>
    have hstart : authorityStart s = n := by simp only [authorityStart, h, Option.getD_some]
    rw [maskChars_eq, hstart, authorityStart, schemeLength_take_append h]
    rfl

theorem maskAuthority_maskAuthority (s : List Char) : maskAuthority (maskAuthority s) = maskAuthority s := by
  rcases maskAuthority_cases s with ⟨hsame, -⟩ | ⟨user, secret, behind, -, huser, hbehind, hmask⟩
  · rw [hsame, hsame]
  · have hstars : user ++ ":***@".toList ++ behind = user ++ ':' :: "***".toList ++ '@' :: behind := by simp
    rw [hmask, hstars, maskAuthority_of_places huser hbehind, ← hstars]

theorem maskChars_maskChars (s : List Char) : maskChars (maskChars s) = maskChars s := by
  have hlength := length_take_authorityStart s
  have htake : (maskChars s).take (authorityStart s) = s.take (authorityStart s) := by
    rw [maskChars_eq, List.take_left' hlength]
  have hdrop : (maskChars s).drop (authorityStart s) = maskAuthority (s.drop (authorityStart s)) := by
    rw [maskChars_eq, List.drop_left' hlength]
  rw [maskChars_eq (maskChars s), authorityStart_maskChars, htake, hdrop, maskAuthority_maskAuthority, ← maskChars_eq]

/-- Either no colon of the authority stands before an `@`, or the text between the first such colon and the last `@` is
lost. -/
theorem maskChars_cases (s : List Char) :
    (maskChars s = s ∧ ∀ front secret behind, s = front ++ ':' :: secret ++ '@' :: behind → front.length < authorityStart s) ∨
    ∃ front user secret behind, s = front ++ user ++ ':' :: secret ++ '@' :: behind ∧ front.length = authorityStart s ∧
      ':' ∉ user ∧ '@' ∉ behind ∧ maskChars s = front ++ user ++ ":***@".toList ++ behind := by
  have hlength := length_take_authorityStart s
  rcases maskAuthority_cases (s.drop (authorityStart s)) with
    ⟨hsame, hnone⟩ | ⟨user, secret, behind, htext, huser, hbehind, hmask⟩
  · left
    refine ⟨by rw [maskChars_eq, hsame, List.take_append_drop], ?_⟩
    intro front secret behind hs
    rcases Nat.lt_or_ge front.length (authorityStart s) with hlt | hge
    · exact hlt
    · -- a colon behind the start of the authority would be found
      have hdrop : s.drop (authorityStart s) = front.drop (authorityStart s) ++ ':' :: secret ++ '@' :: behind := by
        rw [List.append_assoc] at hs ⊢
        generalize authorityStart s = start at hge ⊢
        rw [hs, List.drop_append_of_le_length hge]
      exact absurd hdrop (hnone _ secret behind)
  · right
    refine ⟨s.take (authorityStart s), user, secret, behind, ?_, hlength, huser, hbehind, ?_⟩
    · simp only [List.append_assoc] at htext ⊢
      rw [← htext, List.take_append_drop]
    · rw [maskChars_eq, hmask]
      simp only [List.append_assoc]

/-- **A mask changes one place only, and a second mask nothing.** A text without a colon between the start of its authority and
an `@` stays as it is. Any other is kept up to the first such colon and from its last `@`, with three asterisks between them. -/
theorem maskPassword_idempotent (s : String) :
    maskPassword (maskPassword s) = maskPassword s ∧
    ((maskPassword s = s ∧ ∀ front secret behind : String,
        s = front ++ ":" ++ secret ++ "@" ++ behind → front.length < authorityStart s.toList) ∨
      ∃ front user secret behind : String, s = front ++ user ++ ":" ++ secret ++ "@" ++ behind ∧
        front.length = authorityStart s.toList ∧ ':' ∉ user.toList ∧ '@' ∉ behind.toList ∧
        maskPassword s = front ++ user ++ ":***" ++ "@" ++ behind) := by
  constructor
  · rw [← String.toList_inj]
    simp only [toList_maskPassword]
    exact maskChars_maskChars s.toList
  · rcases maskChars_cases s.toList with ⟨hsame, hnone⟩ | ⟨front, user, secret, behind, hs, hlength, huser, hbehind, hmask⟩
    · left
      refine ⟨String.toList_inj.1 (by rw [toList_maskPassword, hsame]), ?_⟩
      rintro front secret behind rfl
      apply hnone front.toList secret.toList behind.toList
      simp [String.toList_append]
    · right
      refine ⟨String.ofList front, String.ofList user, String.ofList secret, String.ofList behind, ?_, ?_, ?_, ?_, ?_⟩
      · rw [← String.toList_inj, hs]
        simp [String.toList_append]
      · rw [← hlength]
        simp
      · simpa using huser
      · simpa using hbehind
      · rw [← String.toList_inj, toList_maskPassword, hmask]
        simp [String.toList_append]

end RowLoader.Connection
