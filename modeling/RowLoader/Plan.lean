import RowLoader.Profile

/-!
# Load plans

What to load: into which table, in batches of which shape, from which seed and offset, and whether to clear the table
first. A profile gives a complete plan by itself.
-/

namespace RowLoader

structure LoadPlan where
  profile : Profile
  table : String
  batchSize : UInt64
  batchCount : UInt64
  seed : UInt64
  startOffset : UInt64
  truncate : Bool
  deriving DecidableEq

namespace LoadPlan

def defaultSeed : UInt64 := 42

def ofProfile (p : Profile) : LoadPlan :=
  { profile := p
    table := p.table
    batchSize := p.batchSize
    batchCount := p.batchCount
    seed := defaultSeed
    startOffset := 0
    truncate := p.truncates }

/-- The number of rows, capped at the greatest word. -/
def rows (p : LoadPlan) : UInt64 := UInt64.ofNat (min (p.batchCount.toNat * p.batchSize.toNat) 0xFFFFFFFFFFFFFFFF)

theorem toNat_rows (p : LoadPlan) :
    p.rows.toNat = min (p.batchCount.toNat * p.batchSize.toNat) 0xFFFFFFFFFFFFFFFF := by
  rw [rows, UInt64.toNat_ofNat']
  omega

end LoadPlan

end RowLoader
