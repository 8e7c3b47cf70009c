import RowLoader.Decimal.Padded

/-!
# Timestamps

Wall-clock times of the proleptic Gregorian calendar, without a zone. A leap second is the 59th second with a
nanosecond count of a second or more; `printedSecond` shows it as the 60th. `Timestamp.text` is the form
`YYYY-MM-DD HH:MM:SS`, with a sign in front of years of more than four digits or before the year 0.
-/

namespace RowLoader

/-! ### the calendar -/

def IsLeapYear (year : Int) : Prop := year % 4 = 0 ∧ (year % 100 ≠ 0 ∨ year % 400 = 0)

instance (year : Int) : Decidable (IsLeapYear year) := inferInstanceAs (Decidable (_ ∧ _))

def daysInMonth (year : Int) : Nat → Nat
  | 2 => if IsLeapYear year then 29 else 28
  | 4 | 6 | 9 | 11 => 30
  | _ => 31

structure IsDate (year : Int) (month day : Nat) : Prop where
  year_ge : -262143 ≤ year
  year_le : year ≤ 262142
  month_pos : 1 ≤ month
  month_le : month ≤ 12
  day_pos : 1 ≤ day
  day_le : day ≤ daysInMonth year month

structure IsClock (hour minute second nanosecond : Nat) : Prop where
  hour_lt : hour < 24
  minute_lt : minute < 60
  second_lt : second < 60
  /-- only the last second of a minute may run on into a leap second -/
  nanosecond_lt : nanosecond < if second = 59 then 2000000000 else 1000000000

theorem isDate_iff {year : Int} {month day : Nat} : IsDate year month day ↔
    -262143 ≤ year ∧ year ≤ 262142 ∧ 1 ≤ month ∧ month ≤ 12 ∧ 1 ≤ day ∧ day ≤ daysInMonth year month :=
  ⟨fun ⟨a, b, c, d, e, f⟩ => ⟨a, b, c, d, e, f⟩, fun ⟨a, b, c, d, e, f⟩ => ⟨a, b, c, d, e, f⟩⟩

theorem isClock_iff {hour minute second nanosecond : Nat} : IsClock hour minute second nanosecond ↔
    hour < 24 ∧ minute < 60 ∧ second < 60 ∧ nanosecond < if second = 59 then 2000000000 else 1000000000 :=
  ⟨fun ⟨a, b, c, d⟩ => ⟨a, b, c, d⟩, fun ⟨a, b, c, d⟩ => ⟨a, b, c, d⟩⟩

instance (year : Int) (month day : Nat) : Decidable (IsDate year month day) := decidable_of_iff _ isDate_iff.symm

instance (hour minute second nanosecond : Nat) : Decidable (IsClock hour minute second nanosecond) :=
  decidable_of_iff _ isClock_iff.symm

structure Timestamp where
  year : Int
  month : Nat
  day : Nat
  hour : Nat
  minute : Nat
  second : Nat
  nanosecond : Nat
  isDate : IsDate year month day := by decide
  isClock : IsClock hour minute second nanosecond := by decide
  deriving DecidableEq

namespace Timestamp

/-- The start of 1970. -/
def epoch : Timestamp := { year := 1970, month := 1, day := 1, hour := 0, minute := 0, second := 0, nanosecond := 0 }

def ofFields? (year : Int) (month day hour minute second nanosecond : Nat) : Option Timestamp :=
  if h : IsDate year month day ∧ IsClock hour minute second nanosecond then
    some ⟨year, month, day, hour, minute, second, nanosecond, h.1, h.2⟩
  else none

/-! ### leap seconds -/

def IsLeapSecond (t : Timestamp) : Prop := 1000000000 ≤ t.nanosecond

instance (t : Timestamp) : Decidable t.IsLeapSecond := inferInstanceAs (Decidable (_ ≤ _))

/-- The second as a clock shows it, 60 in a leap second. -/
def printedSecond (t : Timestamp) : Nat := if t.IsLeapSecond then 60 else t.second

theorem second_of_isLeapSecond {t : Timestamp} (h : t.IsLeapSecond) : t.second = 59 := by
  have := t.isClock.nanosecond_lt
  unfold IsLeapSecond at h
  split at this <;> omega

/-- Four digits, or a sign and at least four digits where four alone would not do. -/
def yearText (year : Int) : String :=
  if 0 ≤ year ∧ year ≤ 9999 then Decimal.padded 4 year.toNat
  else (if year < 0 then "-" else "+") ++ Decimal.padded 4 year.natAbs

def text (t : Timestamp) : String :=
  yearText t.year ++ "-" ++ Decimal.padded 2 t.month ++ "-" ++ Decimal.padded 2 t.day ++ " " ++
    Decimal.padded 2 t.hour ++ ":" ++ Decimal.padded 2 t.minute ++ ":" ++ Decimal.padded 2 t.printedSecond

end Timestamp

end RowLoader
