import RowLoader.Proofs.Timestamp.Printed
import RowLoader.Sql.Parameter

/-!
# Dates that are sent

A timestamp is printed in one way and sent to a server in another. Both name the same time if four digits hold its year and it
lies in no leap second, and in no other case: a year that wraps around is printed with a sign, and a leap second as the 60th.

* `dateText`: the first six parts of a date, written out;
* `text_eq_dateText_iff`: when a timestamp is printed like this;
* `printed_as_sent_iff`: the printed forms of a value and its parameter.
-/

namespace RowLoader.Sql

open Decimal Timestamp

/-- A year of four digits and five numbers of two. -/
def dateText (year month day hour minute second : Nat) : String :=
  padded 4 year ++ "-" ++ padded 2 month ++ "-" ++ padded 2 day ++ " " ++
    padded 2 hour ++ ":" ++ padded 2 minute ++ ":" ++ padded 2 second

theorem toList_dateText (year month day hour minute second : Nat) :
    (dateText year month day hour minute second).toList =
      paddedDigits 4 year ++ '-' :: (paddedDigits 2 month ++ '-' :: (paddedDigits 2 day ++ ' ' ::
        (paddedDigits 2 hour ++ ':' :: (paddedDigits 2 minute ++ ':' :: paddedDigits 2 second)))) := by
  simp [dateText, toList_padded]

theorem paddedDigits_inj {width m n : Nat} : paddedDigits width m = paddedDigits width n ↔ m = n := by
  constructor
  · intro h
    rw [← ofDigitChars_paddedDigits width m, h, ofDigitChars_paddedDigits]
  · rintro rfl
    rfl

/-- What is printed of a year outside the range of four digits starts with a sign. -/
theorem text_ne_dateText_of_year {t : Timestamp} (h : ¬ (0 ≤ t.year ∧ t.year ≤ 9999))
    (year month day hour minute second : Nat) : t.text ≠ dateText year month day hour minute second := by
  intro htext
  have hchars := congrArg String.toList htext
  obtain ⟨c, digits, hdigits, hc⟩ := exists_digit_cons (Nat.zero_lt_succ 3) year
  rw [toList_text, toList_dateText, hdigits, Shown.chars, toList_yearText, shown, if_neg h, List.cons_append, List.cons_append,
    List.cons.injEq] at hchars
  rw [← hchars.1, yearSign] at hc
  split at hc <;> cases hc

theorem text_eq_dateText_iff (t : Timestamp) :
    t.text = dateText (t.year % 65536).toNat t.month t.day t.hour t.minute t.second ↔
      0 ≤ t.year ∧ t.year ≤ 9999 ∧ t.nanosecond < 1000000000 := by
  by_cases hyear : 0 ≤ t.year ∧ t.year ≤ 9999
  · have hsame : (t.year % 65536).toNat = t.year.toNat := by omega
    rw [← String.toList_inj, toList_text, toList_dateText, Shown.chars, toList_yearText, shown, if_pos hyear, hsame]
    simp only [List.append_cancel_left_eq, List.cons.injEq, true_and, paddedDigits_inj, printedSecond_eq]
    omega
  · have hne := text_ne_dateText_of_year hyear (t.year % 65536).toNat t.month t.day t.hour t.minute t.second
    constructor
    · intro h
      exact absurd h hne
    · rintro ⟨hge, hle, -⟩
      exact absurd ⟨hge, hle⟩ hyear

/-- **A time is printed as it is sent exactly where that is possible.** The text of a timestamp, between the quotes of either
printed form, is that of the first six parts of its parameter if and only if its year has four digits and it lies in no leap
second. The microseconds of its parameter are then those of one second. -/
theorem printed_as_sent_iff (t : Timestamp) : ∃ year month day hour minute second microsecond : Nat,
    Parameter.ofValue (.timestamp t) = .date year month day hour minute second microsecond ∧
    ((Value.timestamp t).display = "'" ++ dateText year month day hour minute second ++ "'" ↔
      0 ≤ t.year ∧ t.year ≤ 9999 ∧ t.nanosecond < 1000000000) ∧
    ((Value.timestamp t).json = "\"" ++ dateText year month day hour minute second ++ "\"" ↔
      0 ≤ t.year ∧ t.year ≤ 9999 ∧ t.nanosecond < 1000000000) ∧
    (0 ≤ t.year ∧ t.year ≤ 9999 ∧ t.nanosecond < 1000000000 → microsecond < 1000000) := by
  have htext := text_eq_dateText_iff t
  refine ⟨_, _, _, _, _, _, _, rfl, ?_, ?_, ?_⟩
  · rw [Value.display_timestamp, ← htext]
    simp
  · rw [Value.json_timestamp, ← htext]
    simp
  · rintro ⟨-, -, hnanosecond⟩
    omega

/-- The last second that can be sent, and two times that are sent alike without being printed alike. -/
theorem printed_as_sent_of_last :
    (∃ microsecond, Parameter.ofValue (.timestamp ⟨9999, 12, 31, 23, 59, 59, 999999999, by decide, by decide⟩) =
        .date 9999 12 31 23 59 59 microsecond ∧ microsecond < 1000000) ∧
    Parameter.ofValue (.timestamp ⟨67560, 2, 29, 0, 0, 0, 0, by decide, by decide⟩) = .date 2024 2 29 0 0 0 0 ∧
    (Value.timestamp ⟨67560, 2, 29, 0, 0, 0, 0, by decide, by decide⟩).json ≠ "\"" ++ dateText 2024 2 29 0 0 0 ++ "\"" := by
  refine ⟨?_, rfl, ?_⟩
  · obtain ⟨year, month, day, hour, minute, second, microsecond, hsent, -, -, hbelow⟩ :=
      printed_as_sent_iff ⟨9999, 12, 31, 23, 59, 59, 999999999, by decide, by decide⟩
    cases hsent
    exact ⟨_, rfl, hbelow (by decide)⟩
  · obtain ⟨year, month, day, hour, minute, second, microsecond, hsent, -, hjson, -⟩ :=
      printed_as_sent_iff ⟨67560, 2, 29, 0, 0, 0, 0, by decide, by decide⟩
    cases hsent
    intro h
    have hyear := (hjson.1 h).2.1
    exact absurd hyear (by decide)

end RowLoader.Sql
