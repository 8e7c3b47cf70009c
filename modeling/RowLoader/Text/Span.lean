import RowLoader.Text.Cut
import RowLoader.Text.Percent

/-!
# Spans of characters

Sets of characters as spans of code points. They are written in hexadecimal, line by line, with blanks between them:
`41-5A 5F`.
-/

namespace RowLoader.Text

structure Span where
  first : Nat
  last : Nat
  deriving DecidableEq

def Span.contains (s : Span) (c : Char) : Bool := s.first ≤ c.toNat && c.toNat ≤ s.last

def inSpans (spans : List Span) (c : Char) : Bool := spans.any (·.contains c)

/-! ### reading -/

/-- What is no digit counts as zero. -/
def readHex (s : List Char) : Nat := s.foldl (fun n c => 16 * n + ((hexDigitValue? c).getD 0).toNat) 0

/-- The texts between blanks. -/
def words (s : String) : List (List Char) := (pieces ' ' s.toList).filter fun word => !word.isEmpty

def Span.ofWord (word : List Char) : Span :=
  let cut := cutFirst '-' word
  ⟨readHex cut.1, readHex (cut.2.getD cut.1)⟩

def readSpans (lines : List String) : List Span := lines.flatMap fun line => (words line).map Span.ofWord

end RowLoader.Text
