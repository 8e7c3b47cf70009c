/-!
# Blank text

The characters with the Unicode property `White_Space`, and texts that hold no others.
-/

namespace RowLoader.Text

/-- First and last code points of the ranges with the property. -/
def whiteSpaceRanges : List (Nat × Nat) :=
  [(0x9, 0xd), (0x20, 0x20), (0x85, 0x85), (0xa0, 0xa0), (0x1680, 0x1680), (0x2000, 0x200a), (0x2028, 0x2029),
    (0x202f, 0x202f), (0x205f, 0x205f), (0x3000, 0x3000)]

def isWhiteSpace (c : Char) : Bool := whiteSpaceRanges.any fun r => r.1 ≤ c.toNat && c.toNat ≤ r.2

/-- Nothing but white space; the empty text is blank. -/
def isBlank (s : String) : Bool := s.toList.all isWhiteSpace

theorem isBlank_eq_false_iff (s : String) : isBlank s = false ↔ ∃ c ∈ s.toList, isWhiteSpace c = false := by
  simp [isBlank, List.all_eq_false]

end RowLoader.Text
