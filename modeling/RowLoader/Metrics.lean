import RowLoader.Decimal.Fixed
import RowLoader.Trap

/-!
# Metrics

The counters of a run, the time it took, and the throughput. Counters are words and trap on overflow; the throughput is a
double, zero when no time has passed.
-/

namespace RowLoader

/-! ### durations -/

structure Duration where
  seconds : UInt64
  nanoseconds : Nat
  nanoseconds_lt : nanoseconds < 1000000000 := by decide
  deriving DecidableEq

namespace Duration

def zero : Duration := ⟨0, 0, by decide⟩

def ofParts? (seconds : UInt64) (nanoseconds : Nat) : Option Duration :=
  if h : nanoseconds < 1000000000 then some ⟨seconds, nanoseconds, h⟩ else none

def toFloat (d : Duration) : Float := d.seconds.toFloat + d.nanoseconds.toUInt64.toFloat / 1000000000

/-- `whole` units and `part` of the unit's `10 ^ places` parts, without zeros at the end. -/
def unitText (whole part places : Nat) (unit : String) : String :=
  let digits := ((Decimal.paddedDigits places part).reverse.dropWhile (· == '0')).reverse
  whole.repr ++ (if digits.isEmpty then "" else "." ++ String.ofList digits) ++ unit

/-- In the largest unit of which the duration has at least one. -/
def text (d : Duration) : String :=
  if 0 < d.seconds then unitText d.seconds.toNat d.nanoseconds 9 "s"
  else if 1000000 ≤ d.nanoseconds then unitText (d.nanoseconds / 1000000) (d.nanoseconds % 1000000) 6 "ms"
  else if 1000 ≤ d.nanoseconds then unitText (d.nanoseconds / 1000) (d.nanoseconds % 1000) 3 "µs"
  else unitText d.nanoseconds 0 0 "ns"

end Duration

/-! ### counters -/

structure Metrics where
  written : UInt64
  failed : UInt64
  commits : UInt64
  elapsed : Duration
  deriving DecidableEq

namespace Metrics

def zero : Metrics := ⟨0, 0, 0, .zero⟩

def addWritten (m : Metrics) (rows : UInt64) : Except Trap Metrics := do
  let succeeded ← addWords m.written rows
  let committed ← addWords m.commits 1
  return { m with written := succeeded, commits := committed }

def addFailed (m : Metrics) (rows : UInt64) : Except Trap Metrics := do
  let failed ← addWords m.failed rows
  return { m with failed := failed }

theorem addWritten_eq_ok_iff {m n : Metrics} {rows : UInt64} : m.addWritten rows = .ok n ↔
    n.written.toNat = m.written.toNat + rows.toNat ∧ n.commits.toNat = m.commits.toNat + 1 ∧
      n.failed = m.failed ∧ n.elapsed = m.elapsed := by
  constructor
  · intro h
    obtain ⟨w, hw, h⟩ := bind_eq_ok h
    obtain ⟨c, hc, h⟩ := bind_eq_ok h
    cases h
    exact ⟨addWords_eq_ok_iff.1 hw, addWords_eq_ok_iff.1 hc, rfl, rfl⟩
  · rintro ⟨hw, hc, hf, he⟩
    cases n
    cases hf
    cases he
    simp only [addWritten, addWords_eq_ok_iff.2 hw, addWords_eq_ok_iff (b := 1) |>.2 hc]
    rfl

/-! ### throughput -/

def throughput (m : Metrics) : Float :=
  if 0 < m.elapsed.toFloat then m.written.toFloat / m.elapsed.toFloat else 0

def summary (m : Metrics) : String :=
  s!"Wrote {m.written} rows ({m.failed} failed) in " ++ Decimal.fixedText m.elapsed.toFloat 3 ++ "s (" ++
    Decimal.fixedText m.throughput 2 ++ " rows/sec)"

end Metrics

end RowLoader
