import RowLoader.Random.Words

/-!
# Samples without repetition

`sampleIndices k l` draws `k` distinct numbers below `l`, by one of two algorithms: a partial shuffle of all of them, or,
for small samples, one draw per number in which a repeat is replaced by the newest bound. Letters and digits are drawn
from their alphabets that way.
-/

namespace RowLoader.Random

variable {σ : Type} [WordSource σ]

/-! ### by shuffling -/

/-- Exchanges each of the `n` entries from position `i` on with one at or behind it. -/
def shuffleFrom : (n i : Nat) → Array Nat → StateM σ (Array Nat)
  | 0, _, a => return a
  | n + 1, i, a => do
    let j ← below32 (a.size - i)
    shuffleFrom n (i + 1) (a.swapIfInBounds i (i + j))

def sampleByShuffle (k l : Nat) : StateM σ (List Nat) := do
  return ((← shuffleFrom k 0 (Array.range l)).toList).take k

/-! ### by replacement -/

/-- Adds `t`; an entry that is `t` already becomes `newest`. -/
def addReplacing (newest t : Nat) (drawn : List Nat) : List Nat :=
  drawn.map (fun x => if x = t then newest else x) ++ [t]

def replaceFrom : (n newest : Nat) → List Nat → StateM σ (List Nat)
  | 0, _, drawn => return drawn
  | n + 1, newest, drawn => do
    let t ← below32 (newest + 1)
    replaceFrom n (newest + 1) (addReplacing newest t drawn)

def sampleByReplacement (k l : Nat) : StateM σ (List Nat) := replaceFrom k (l - k) []

/-! ### samples -/

/-- A shuffle pays from twelve entries on, as long as the pool is less than `10 + 1.6 k` times the sample. -/
def ShufflePays (k l : Nat) : Prop := 11 < k ∧ 10 * l < (100 + 16 * k) * k

instance (k l : Nat) : Decidable (ShufflePays k l) := inferInstanceAs (Decidable (_ ∧ _))

def sampleIndices (k l : Nat) : StateM σ (List Nat) :=
  if ShufflePays k l then sampleByShuffle k l else sampleByReplacement k l

/-- `n` distinct entries of the pool, or all of them if it has fewer. -/
def sample (pool : List Char) (n : Nat) : StateM σ (List Char) := do
  return (← sampleIndices (min n pool.length) pool.length).filterMap (pool[·]?)

/-! ### letters and digits -/

/-- The ASCII letters, each capital before its small letter. -/
def letterPool : List Char := "AaBbCcDdEeFfGgHhIiJjKkLlMmNnOoPpQqRrSsTtUuVvWwXxYyZz".toList

def digitPool : List Char := "0123456789".toList

/-- At most as many letters as there are, all different. -/
def letters (n : Nat) : StateM σ String := do
  return String.ofList (← sample letterPool n)

def digit : StateM σ Char := do
  return Nat.digitChar (← below32 10)

def independentDigits : Nat → StateM σ (List Char)
  | 0 => return []
  | n + 1 => do
    let d ← digit
    return d :: (← independentDigits n)

/-- The first ten digits are all different, those behind them independent. -/
def digits (n : Nat) : StateM σ String := do
  let distinct ← sample digitPool n
  return String.ofList (distinct ++ (← independentDigits (n - 10)))

end RowLoader.Random
