/-!
# Random words

Everything random is drawn from a source of 32-bit words. `below32 n` and `below64 n` reduce words to a number below `n`
by one multiplication, with at most one more word to settle the carry from below; `uniform_lt` bounds the outcome
whatever the words are.
-/

namespace RowLoader

/-- A state that yields one word after the other. -/
class WordSource (σ : Type) where
  next : σ → UInt32 × σ

namespace Random

variable {σ : Type}

section Words

variable [WordSource σ]

def word32 : StateM σ Nat := fun s =>
  let w := WordSource.next s
  (w.1.toNat, w.2)

/-- Two words, the low half first. -/
def word64 : StateM σ Nat := do
  let low ← word32
  let high ← word32
  return high * 0x100000000 + low

theorem word32_lt (s : σ) : (word32 s).1 < 0x100000000 := UInt32.toNat_lt _

theorem word64_lt (s : σ) : (word64 s).1 < 0x10000000000000000 := by
  have h1 := word32_lt s
  have h2 := word32_lt (word32 s).2
  change (word32 (word32 s).2).1 * 0x100000000 + (word32 s).1 < 0x10000000000000000
  omega

end Words

/-- The high half of `word * n`, corrected by a second word when the low half leaves room for a carry. -/
def uniform (bits : Nat) (word : StateM σ Nat) (n : Nat) : StateM σ Nat := do
  let product := (← word) * n
  if product % (1 <<< bits) ≤ (1 <<< bits) - n then
    return product / (1 <<< bits)
  else
    let below := (← word) * n / (1 <<< bits)
    return product / (1 <<< bits) + (product % (1 <<< bits) + below) / (1 <<< bits)

/-! ### the outcome is below the bound -/

theorem high_half_lt {b w n : Nat} (hn : 0 < n) (hw : w < b) : w * n / b < n := by
  rw [Nat.div_lt_iff_lt_mul (by omega), Nat.mul_comm n b]
  exact Nat.mul_lt_mul_of_pos_right hw hn

theorem corrected_half_lt {b w v n : Nat} (hn : 0 < n) (hnb : n ≤ b) (hw : w < b) (hv : v < b)
    (h : b - n < w * n % b) : w * n / b + (w * n % b + v * n / b) / b < n := by
  have hb : 0 < b := by omega
  have hq := high_half_lt hn hv
  have hlo := Nat.mod_lt (w * n) hb
  have hdm := Nat.div_add_mod (w * n) b
  have hle : w * n + n ≤ b * n := by rw [← Nat.succ_mul]; exact Nat.mul_le_mul_right n hw
  have hcarry : (w * n % b + v * n / b) / b < 2 := by
    rw [Nat.div_lt_iff_lt_mul hb]
    omega
  have hhigh : w * n / b + 1 < n := by
    refine Nat.lt_of_mul_lt_mul_left (a := b) ?_
    rw [Nat.mul_add, Nat.mul_one]
    omega
  omega

theorem uniform_apply (bits : Nat) (word : StateM σ Nat) (n : Nat) (s : σ) :
    uniform bits word n s =
      if (word s).1 * n % (1 <<< bits) ≤ (1 <<< bits) - n then ((word s).1 * n / (1 <<< bits), (word s).2)
      else ((word s).1 * n / (1 <<< bits) +
        ((word s).1 * n % (1 <<< bits) + (word (word s).2).1 * n / (1 <<< bits)) / (1 <<< bits), (word (word s).2).2) := by
  change (ite _ _ _ : StateM σ Nat) (word s).2 = _
  split <;> rfl

theorem uniform_lt {bits n : Nat} {word : StateM σ Nat} (hword : ∀ s, (word s).1 < 1 <<< bits) (hn : 0 < n)
    (hnb : n ≤ 1 <<< bits) (s : σ) : (uniform bits word n s).1 < n := by
  rw [uniform_apply]
  split
  · exact high_half_lt hn (hword s)
  · rename_i h
    exact corrected_half_lt hn hnb (hword s) (hword (word s).2) (Nat.lt_of_not_le h)

/-! ### the two widths -/

section Draws

variable [WordSource σ]

def below32 (n : Nat) : StateM σ Nat := uniform 32 word32 n

def below64 (n : Nat) : StateM σ Nat := uniform 64 word64 n

theorem below32_lt {n : Nat} (hn : 0 < n) (h : n ≤ 0x100000000) (s : σ) : (below32 n s).1 < n :=
  uniform_lt word32_lt hn h s

theorem below64_lt {n : Nat} (hn : 0 < n) (h : n ≤ 0x10000000000000000) (s : σ) : (below64 n s).1 < n :=
  uniform_lt word64_lt hn h s

end Draws

end Random

end RowLoader
