import RowLoader.Profile

/-!
# The key space

Which ranges of offsets have keys. The user with the greatest phone number sets the end, for both profiles, and a range
must not go beyond it. `checkSpan` judges a range by its sum in unbounded integers, so a sum that leaves the words is out
of range like any other.
-/

namespace RowLoader

/-- The greatest offset whose phone number fits a signed word. -/
def lastOffset : Nat := 0x7FFFFFFFFFFFFFFF - 13100000001

/-- A range of offsets that leaves the key space. -/
structure KeySpaceOverflow where
  profile : Profile
  start : UInt64
  rows : UInt64
  deriving DecidableEq

def KeySpaceOverflow.message (e : KeySpaceOverflow) : String :=
  s!"Offset overflow: {e.start} + {e.rows} exceeds the {e.profile.name} key space"

namespace Profile

def checkSpan (p : Profile) (start rows : UInt64) : Except KeySpaceOverflow Unit :=
  if start.toNat + rows.toNat ≤ lastOffset then .ok () else .error ⟨p, start, rows⟩

theorem checkSpan_eq_ok_iff {p : Profile} {start rows : UInt64} :
    p.checkSpan start rows = .ok () ↔ start.toNat + rows.toNat ≤ lastOffset := by
  unfold checkSpan
  split <;> simp [*]

theorem checkSpan_eq_error {p : Profile} {start rows : UInt64} (h : lastOffset < start.toNat + rows.toNat) :
    p.checkSpan start rows = .error ⟨p, start, rows⟩ :=
  if_neg (Nat.not_le_of_lt h)

end Profile

end RowLoader
