import RowLoader.Sink

/-!
# A sink in memory

Counts rows instead of keeping them, and fails the calls it is told to fail, by number and kind. Being closed does not
change it.
-/

namespace RowLoader

/-- The numbers, from 1 on, of the calls of each kind that fail. -/
structure FailingCalls where
  truncates : List UInt64 := []
  writes : List UInt64 := []
  counts : List UInt64 := []
  closes : List UInt64 := []

structure CountingSink where
  rows : UInt64 := 0
  failing : FailingCalls := {}
  reason : String := "Duplicate entry"
  /-- answered to a write instead of its number of rows -/
  written : Option UInt64 := none
  /-- answered to a count instead of the rows held -/
  reported : Option UInt64 := none
  truncates : UInt64 := 0
  writes : UInt64 := 0
  counts : UInt64 := 0
  closes : UInt64 := 0

namespace CountingSink

/-- Fails with the sink's reason if the call's number is among the failing ones. -/
def answer {α : Type} (before : CountingSink) (failing : List UInt64) (number : UInt64)
    (success : α × CountingSink) : Reply CountingSink α :=
  if failing.contains number then ⟨.error (.connection before.reason), before, #[]⟩
  else ⟨.ok success.1, success.2, #[]⟩

instance : Sink CountingSink where
  truncate s _ :=
    let s := { s with truncates := s.truncates + 1 }
    s.answer s.failing.truncates s.truncates ((), { s with rows := 0 })
  write s statement :=
    let s := { s with writes := s.writes + 1 }
    let rows := UInt64.ofNat statement.rows
    s.answer s.failing.writes s.writes (s.written.getD rows, { s with rows := s.rows + rows })
  count s _ :=
    let s := { s with counts := s.counts + 1 }
    s.answer s.failing.counts s.counts (s.reported.getD s.rows, s)
  close s :=
    let s := { s with closes := s.closes + 1 }
    s.answer s.failing.closes s.closes ((), s)

end CountingSink

end RowLoader
