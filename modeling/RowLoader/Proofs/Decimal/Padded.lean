import Mathlib.Algebra.Group.Nat.Defs
import RowLoader.Decimal.Padded

/-!
# Reading padded decimals

A padded decimal is told from its digits alone: it has as many as asked for, or more of them and no zero in front. So the number
in front of a text can be read back from it.

* `eq_of_ofDigitChars_eq`: as many digits of the same number;
* `paddedDigits_ofDigitChars`: the padded decimal that digits are;
* `readPadded`, `readPadded_eq_some_iff`: the number in front of a text.
-/

namespace RowLoader.Decimal

/-! ### the number that digits stand for -/

theorem ofDigitChars_cons_zero (c : Char) (s : List Char) :
    Nat.ofDigitChars 10 (c :: s) 0 = 10 ^ s.length * (c.toNat - 48) + Nat.ofDigitChars 10 s 0 := by
  rw [Nat.ofDigitChars_cons, Nat.ofDigitChars_eq_ofDigitChars_zero, Nat.mul_zero, Nat.zero_add]
  rfl

theorem toNat_of_isDigit {c : Char} (h : c.isDigit = true) : 48 ≤ c.toNat ∧ c.toNat ≤ 57 := by
  simpa [Char.isDigit, UInt32.le_iff_toNat_le] using h

theorem ofDigitChars_lt {s : List Char} (h : ∀ c ∈ s, c.isDigit = true) : Nat.ofDigitChars 10 s 0 < 10 ^ s.length := by
  induction s with
  | nil => simp
  | cons c s ih =>
    obtain ⟨hc, hs⟩ := List.forall_mem_cons.1 h
    have hdigit := toNat_of_isDigit hc
    have hrest := ih hs
    have hle : 10 ^ s.length * (c.toNat - 48) ≤ 10 ^ s.length * 9 := Nat.mul_le_mul_left _ (by omega)
    rw [ofDigitChars_cons_zero, List.length_cons, Nat.pow_succ]
    omega

/-- Fewer digits would do if and only if a zero stands in front. -/
theorem ofDigitChars_lt_iff {c : Char} {s : List Char} (hc : c.isDigit = true) (hs : ∀ d ∈ s, d.isDigit = true) :
    Nat.ofDigitChars 10 (c :: s) 0 < 10 ^ s.length ↔ c = '0' := by
  have hdigit := toNat_of_isDigit hc
  rw [ofDigitChars_cons_zero]
  constructor
  · intro hlt
    have hzero : c.toNat - 48 = 0 := by
      rcases Nat.eq_zero_or_pos (c.toNat - 48) with hzero | hpos
      · exact hzero
      · have hle : 10 ^ s.length * 1 ≤ 10 ^ s.length * (c.toNat - 48) := Nat.mul_le_mul_left _ hpos
        omega
    have hc : c.toNat = '0'.toNat := by
      rw [show '0'.toNat = 48 from rfl]
      omega
    exact Char.toNat_inj.1 hc
  · rintro rfl
    simpa using ofDigitChars_lt hs

/-- Two texts of as many digits that stand for the same number are the same. -/
theorem eq_of_ofDigitChars_eq {s t : List Char} (hs : ∀ c ∈ s, c.isDigit = true) (ht : ∀ c ∈ t, c.isDigit = true)
    (hlength : s.length = t.length) (h : Nat.ofDigitChars 10 s 0 = Nat.ofDigitChars 10 t 0) : s = t := by
  induction s generalizing t with
  | nil => exact (List.length_eq_zero_iff.1 hlength.symm).symm
  | cons c s ih =>
    cases t with
    | nil => cases hlength
    | cons d t =>
      obtain ⟨hc, hs⟩ := List.forall_mem_cons.1 hs
      obtain ⟨hd, ht⟩ := List.forall_mem_cons.1 ht
      have hlength : s.length = t.length := Nat.succ.inj hlength
      have hslt := ofDigitChars_lt hs
      have htlt := ofDigitChars_lt ht
      rw [ofDigitChars_cons_zero, ofDigitChars_cons_zero, hlength] at h
      rw [hlength] at hslt
      -- the first digit is the quotient by the power of ten, the others are the remainder
      have hfirst : c.toNat - 48 = d.toNat - 48 := by
        have hquotient := congrArg (· / 10 ^ t.length) h
        simpa [Nat.mul_add_div, Nat.pow_pos, Nat.div_eq_of_lt hslt, Nat.div_eq_of_lt htlt] using hquotient
      have hrest : Nat.ofDigitChars 10 s 0 = Nat.ofDigitChars 10 t 0 := by
        rw [hfirst] at h
        omega
      have hdc := toNat_of_isDigit hc
      have hdd := toNat_of_isDigit hd
      have hcd : c = d := Char.toNat_inj.1 (by omega)
      rw [hcd, ih hs ht hlength hrest]

/-! ### padded decimals -/

/-- Digits that are filled up with zeros to a width, and no further. -/
def IsPadded (width : Nat) (s : List Char) : Prop :=
  (∀ c ∈ s, c.isDigit = true) ∧ width ≤ s.length ∧ (width < s.length → s.head? ≠ some '0')

-- the digits are looked at one by one, and not all characters there are
instance (width : Nat) (s : List Char) : Decidable (IsPadded width s) :=
  @instDecidableAnd _ _ (List.decidableBAll _ s) inferInstance

theorem isPadded_paddedDigits {width : Nat} (hwidth : 0 < width) (n : Nat) : IsPadded width (paddedDigits width n) := by
  refine ⟨?_, ?_, ?_⟩
  · intro c hc
    rcases List.mem_append.1 hc with hc | hc
    · rw [List.eq_of_mem_replicate hc]
      rfl
    · exact Nat.isDigit_of_mem_toDigits (by decide) (by decide) hc
  · rw [length_paddedDigits]
    omega
  · intro hlength hzero
    rw [length_paddedDigits] at hlength
    have hnone : width - (Nat.toDigits 10 n).length = 0 := by omega
    rw [paddedDigits, hnone, List.replicate_zero, List.nil_append] at hzero
    have hdigits : ∀ c ∈ Nat.toDigits 10 n, c.isDigit = true := fun c hc =>
      Nat.isDigit_of_mem_toDigits (by decide) (by decide) hc
    have hvalue : Nat.ofDigitChars 10 (Nat.toDigits 10 n) 0 = n := Nat.ofDigitChars_ten_toDigits
    have hfewest := fun k => Nat.length_toDigits_le_iff (b := 10) (n := n) (k := k) (by decide)
    generalize Nat.toDigits 10 n = s at *
    cases s with
    | nil => cases hzero
    | cons c s =>
      obtain ⟨hc, hs⟩ := List.forall_mem_cons.1 hdigits
      rw [List.head?_cons, Option.some.injEq] at hzero
      rw [List.length_cons] at hlength hfewest
      have hlt := (ofDigitChars_lt_iff hc hs).2 hzero
      rw [hvalue] at hlt
      have hshort := (hfewest s.length (by omega)).2 hlt
      omega

theorem exists_digit_cons {width : Nat} (hwidth : 0 < width) (n : Nat) :
    ∃ c s, paddedDigits width n = c :: s ∧ c.isDigit = true := by
  obtain ⟨hdigits, hle, -⟩ := isPadded_paddedDigits hwidth n
  cases hpadded : paddedDigits width n with
  | nil =>
    rw [hpadded, List.length_nil] at hle
    omega
  | cons c s =>
    rw [hpadded] at hdigits
    exact ⟨c, s, rfl, hdigits c List.mem_cons_self⟩

theorem paddedDigits_ofDigitChars {width : Nat} {s : List Char} (hwidth : 0 < width) (h : IsPadded width s) :
    paddedDigits width (Nat.ofDigitChars 10 s 0) = s := by
  obtain ⟨hdigits, hle, hhead⟩ := h
  have hfewest := fun k => Nat.length_toDigits_le_iff (b := 10) (n := Nat.ofDigitChars 10 s 0) (k := k) (by decide)
  have hupper := (hfewest s.length (by omega)).2 (ofDigitChars_lt hdigits)
  have hlength : (paddedDigits width (Nat.ofDigitChars 10 s 0)).length = s.length := by
    rw [length_paddedDigits]
    rcases Nat.eq_or_lt_of_le hle with heq | hlt
    · omega
    · cases s with
      | nil => cases hlt
      | cons c s =>
        obtain ⟨hc, hs⟩ := List.forall_mem_cons.1 hdigits
        have hne : c ≠ '0' := by
          intro hzero
          exact hhead hlt (by rw [hzero]; rfl)
        rw [List.length_cons] at hlt hupper ⊢
        have hlower := mt (hfewest s.length (by omega)).1 (mt (ofDigitChars_lt_iff hc hs).1 hne)
        omega
  exact eq_of_ofDigitChars_eq (isPadded_paddedDigits hwidth _).1 hdigits hlength (ofDigitChars_paddedDigits width _)

/-! ### the number in front of a text -/

/-- What stands behind a number begins without a digit. -/
def EndsNumber (rest : List Char) : Prop := ∀ c ∈ rest.head?, c.isDigit = false

/-- The number that the digits in front of a text stand for, if they are filled up to `width`, and what stands behind them. -/
def readPadded (width : Nat) (s : List Char) : Option (Nat × List Char) :=
  if IsPadded width (s.takeWhile Char.isDigit) then
    some (Nat.ofDigitChars 10 (s.takeWhile Char.isDigit) 0, s.dropWhile Char.isDigit)
  else none

theorem takeWhile_digits_append {s rest : List Char} (hs : ∀ c ∈ s, c.isDigit = true) (hrest : EndsNumber rest) :
    (s ++ rest).takeWhile Char.isDigit = s ∧ (s ++ rest).dropWhile Char.isDigit = rest := by
  rw [List.takeWhile_append_of_pos hs, List.dropWhile_append_of_pos hs]
  cases rest with
  | nil => simp
  | cons c rest =>
    have hc : c.isDigit = false := hrest c rfl
    simp [hc]

theorem endsNumber_dropWhile (s : List Char) : EndsNumber (s.dropWhile Char.isDigit) := by
  intro c hc
  have hnot := List.head?_dropWhile_not Char.isDigit s
  rw [Option.mem_def.1 hc] at hnot
  simpa using hnot

theorem readPadded_eq_some_iff {width n : Nat} {s rest : List Char} (hwidth : 0 < width) :
    readPadded width s = some (n, rest) ↔ s = paddedDigits width n ++ rest ∧ EndsNumber rest := by
  unfold readPadded
  constructor
  · intro h
    split at h
    · rename_i hpadded
      cases h
      rw [paddedDigits_ofDigitChars hwidth hpadded, List.takeWhile_append_dropWhile]
      exact ⟨rfl, endsNumber_dropWhile s⟩
    · cases h
  · rintro ⟨rfl, hrest⟩
    have hpadded := isPadded_paddedDigits hwidth n
    obtain ⟨htake, hdrop⟩ := takeWhile_digits_append hpadded.1 hrest
    rw [htake, hdrop, if_pos hpadded, ofDigitChars_paddedDigits]

end RowLoader.Decimal
