import RowLoader.Proofs.Decimal.Padded
import RowLoader.Record.Json

/-!
# Printed timestamps

The text of a timestamp is made of six numbers and the signs between them. It stands between quotes wherever a value is printed,
and holds nothing that would be escaped there.

* `Timestamp.printedSecond_eq`: the second that is shown;
* `Timestamp.Shown`: the six numbers;
* `Timestamp.toList_text`: the text in characters;
* `Value.display_timestamp`, `Value.json_timestamp`: the two printed forms.
-/

namespace RowLoader

/-! ### texts that are not escaped -/

namespace Json

theorem escapeChar_of_printing {c : Char} (h : 32 ≤ c.toNat) (hquote : c ≠ '"') (hbackslash : c ≠ '\\') :
    escapeChar c = [c] := by
  unfold escapeChar
  split
  · exact absurd rfl hquote
  · exact absurd rfl hbackslash
  · simp at h
  · simp at h
  · simp at h
  · simp at h
  · simp at h
  · rw [if_neg (by omega)]

theorem escapeChar_of_isDigit {c : Char} (h : c.isDigit = true) : escapeChar c = [c] := by
  have hcode := Decimal.toNat_of_isDigit h
  apply escapeChar_of_printing
  · omega
  · rintro rfl
    simp at hcode
  · rintro rfl
    simp at hcode

theorem escape_eq_self {s : List Char} (h : ∀ c ∈ s, escapeChar c = [c]) : escape s = s := by
  induction s with
  | nil => rfl
  | cons c s ih =>
    obtain ⟨hc, hs⟩ := List.forall_mem_cons.1 h
    rw [escape_cons, hc, ih hs]
    rfl

end Json

namespace Timestamp

open Decimal

/-! ### what a text shows -/

theorem nanosecond_lt (t : Timestamp) : t.nanosecond < 2000000000 := by
  have hlt := t.isClock.nanosecond_lt
  split at hlt <;> omega

theorem printedSecond_eq (t : Timestamp) : t.printedSecond = t.second + t.nanosecond / 1000000000 := by
  have hlt := t.nanosecond_lt
  unfold printedSecond
  split
  · rename_i hleap
    have hlast := second_of_isLeapSecond hleap
    unfold IsLeapSecond at hleap
    omega
  · rename_i hleap
    unfold IsLeapSecond at hleap
    omega

/-- The numbers that the text of a timestamp shows. -/
structure Shown where
  year : Int
  month : Nat
  day : Nat
  hour : Nat
  minute : Nat
  second : Nat
  deriving DecidableEq

def shown (t : Timestamp) : Shown := ⟨t.year, t.month, t.day, t.hour, t.minute, t.printedSecond⟩

/-- A date of the calendar and the time of a clock that may show a 60th second. -/
def Shown.Valid (c : Shown) : Prop :=
  IsDate c.year c.month c.day ∧ c.hour < 24 ∧ c.minute < 60 ∧ c.second ≤ 60

instance (c : Shown) : Decidable c.Valid := inferInstanceAs (Decidable (_ ∧ _))

/-- The sign of a year outside the range of four digits. -/
def yearSign (year : Int) : Char := if year < 0 then '-' else '+'

theorem toList_yearText (year : Int) : (yearText year).toList =
    if 0 ≤ year ∧ year ≤ 9999 then paddedDigits 4 year.toNat else yearSign year :: paddedDigits 4 year.natAbs := by
  unfold yearText yearSign
  split
  · rw [toList_padded]
  · split <;> simp [toList_padded]

def Shown.chars (c : Shown) : List Char :=
  (yearText c.year).toList ++ '-' :: (paddedDigits 2 c.month ++ '-' :: (paddedDigits 2 c.day ++ ' ' ::
    (paddedDigits 2 c.hour ++ ':' :: (paddedDigits 2 c.minute ++ ':' :: paddedDigits 2 c.second))))

theorem toList_text (t : Timestamp) : t.text.toList = t.shown.chars := by
  simp [text, shown, Shown.chars, toList_padded]

/-- Digits, signs and blanks stand for themselves between quotes. -/
theorem Shown.not_escaped (s : Shown) : ∀ c ∈ s.chars, Json.escapeChar c = [c] := by
  have hpadded {width : Nat} (hwidth : 0 < width) (n : Nat) : ∀ c ∈ paddedDigits width n, Json.escapeChar c = [c] := by
    intro c hc
    exact Json.escapeChar_of_isDigit ((isPadded_paddedDigits hwidth n).1 c hc)
  have hyear : ∀ c ∈ (yearText s.year).toList, Json.escapeChar c = [c] := by
    rw [toList_yearText]
    split
    · exact hpadded (by decide) _
    · rw [List.forall_mem_cons, yearSign]
      refine ⟨?_, hpadded (by decide) _⟩
      split <;> rfl
  have hfield (n : Nat) : ∀ c ∈ paddedDigits 2 n, Json.escapeChar c = [c] := hpadded (by decide) n
  simp only [Shown.chars, List.forall_mem_append, List.forall_mem_cons]
  exact ⟨hyear, rfl, hfield _, rfl, hfield _, rfl, hfield _, rfl, hfield _, rfl, hfield _⟩

end Timestamp

/-! ### printed forms -/

theorem Value.display_timestamp (t : Timestamp) : (Value.timestamp t).display = "'" ++ t.text ++ "'" := rfl

theorem Value.json_timestamp (t : Timestamp) : (Value.timestamp t).json = "\"" ++ t.text ++ "\"" := by
  have hescape : Json.escape t.text.toList = t.text.toList := by
    rw [Timestamp.toList_text]
    exact Json.escape_eq_self t.shown.not_escaped
  rw [← String.toList_inj, Value.json, Json.toList_quote, hescape]
  simp

end RowLoader
