import RowLoader.Decimal.Numeral
import RowLoader.Proofs.Decimal.Padded

/-!
# Reading numerals

The decimal of a number is read back wherever the number fits: no digit on the way takes the number so far over the limit,
because it only grows (`le_ofDigitChars`).

* `readDigits_eq_ok`: digits that stand for a number below the limit;
* `toList_repr_cases`: decimals with a sign;
* `readUnsigned_repr`, `readWord_repr`: decimals.
-/

namespace RowLoader.Decimal

theorem le_ofDigitChars (s : List Char) (acc : Nat) : acc ≤ Nat.ofDigitChars 10 s acc := by
  rw [Nat.ofDigitChars_eq_ofDigitChars_zero]
  have hle : 1 * acc ≤ 10 ^ s.length * acc := Nat.mul_le_mul_right _ (Nat.pow_pos (by decide))
  omega

theorem readDigits_eq_ok {limit : Nat} {overflow : NumeralFault} {s : List Char} {acc : Nat}
    (hdigits : ∀ c ∈ s, c.isDigit = true) (hlt : Nat.ofDigitChars 10 s acc < limit) :
    readDigits limit overflow acc s = .ok (Nat.ofDigitChars 10 s acc) := by
  induction s generalizing acc with
  | nil => rfl
  | cons c s ih =>
    obtain ⟨hc, hs⟩ := List.forall_mem_cons.1 hdigits
    rw [Nat.ofDigitChars_cons] at hlt ⊢
    have hnext : 10 * acc + (c.toNat - '0'.toNat) < limit := Nat.lt_of_le_of_lt (le_ofDigitChars s _) hlt
    simp only [readDigits, hc, if_true, if_pos hnext]
    exact ih hs hlt

theorem paddedDigits_one (n : Nat) : paddedDigits 1 n = n.repr.toList := by
  have hpos : 0 < (Nat.toDigits 10 n).length := List.length_pos_iff.2 Nat.toDigits_ne_nil
  have hnone : 1 - (Nat.toDigits 10 n).length = 0 := by omega
  rw [paddedDigits, hnone, List.replicate_zero, List.nil_append, Nat.toList_repr]

theorem isDigit_of_mem_repr {n : Nat} {c : Char} (h : c ∈ n.repr.toList) : c.isDigit = true := by
  rw [Nat.toList_repr] at h
  exact Nat.isDigit_of_mem_toDigits (by decide) (by decide) h

/-- A decimal begins with a digit, and so with no sign. -/
theorem exists_digit_cons_repr (n : Nat) : ∃ c s, n.repr.toList = c :: s ∧ c.isDigit = true := by
  cases hrepr : n.repr.toList with
  | nil =>
    rw [Nat.toList_repr] at hrepr
    exact absurd hrepr Nat.toDigits_ne_nil
  | cons c s =>
    refine ⟨c, s, rfl, isDigit_of_mem_repr (n := n) ?_⟩
    rw [hrepr]
    exact List.mem_cons_self

/-- The decimal of an integer is that of a number, with a sign in front if the integer is negative. -/
theorem toList_repr_cases (n : Int) :
    (∃ m : Nat, n = m ∧ n.repr.toList = m.repr.toList) ∨ ∃ m : Nat, n = -m ∧ n.repr.toList = '-' :: m.repr.toList := by
  cases n with
  | ofNat m => exact Or.inl ⟨m, rfl, rfl⟩
  | negSucc m =>
    refine Or.inr ⟨m + 1, rfl, ?_⟩
    change ("-" ++ (m + 1).repr).toList = _
    rw [String.toList_append]
    rfl

theorem readUnsigned_repr {limit n : Nat} (h : n < limit) : readUnsigned limit n.repr = .ok n := by
  have hvalue : Nat.ofDigitChars 10 n.repr.toList 0 = n := by
    rw [Nat.toList_repr]
    exact Nat.ofDigitChars_ten_toDigits
  have hread : readDigits limit .tooLarge 0 n.repr.toList = .ok n := by
    rw [readDigits_eq_ok (fun c hc => isDigit_of_mem_repr hc) (by rwa [hvalue]), hvalue]
  obtain ⟨c, s, hrepr, hc⟩ := exists_digit_cons_repr n
  have hplus : c ≠ '+' := by
    rintro rfl
    cases hc
  rw [hrepr] at hread
  unfold readUnsigned
  rw [hrepr]
  split
  · rename_i hnil
    cases hnil
  · rename_i hsign
    exact absurd (List.cons.inj hsign).1 hplus
  · rename_i hsign
    exact absurd (List.cons.inj hsign).1 hplus
  · exact hread

theorem readWord_repr (n : UInt64) : readWord n.toNat.repr = .ok n := by
  unfold readWord
  rw [readUnsigned_repr n.toNat_lt]
  exact congrArg Except.ok (UInt64.ofNat_toNat)

end RowLoader.Decimal
