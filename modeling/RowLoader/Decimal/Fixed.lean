import RowLoader.Decimal.Padded

/-!
# Fixed places

The decimal of a binary fraction to a fixed number of places, rounded once from the exact value, a half going to the even
neighbour. A double is taken apart into its sign, a natural mantissa and a power of two; nothing here computes with floats.
-/

namespace RowLoader.Decimal

/-! ### rounding a quotient -/

/-- The natural number nearest to `n / d`, the even one of two. -/
def roundDiv (n d : Nat) : Nat :=
  if 2 * (n % d) < d then n / d
  else if d < 2 * (n % d) then n / d + 1
  else n / d + n / d % 2

/-! ### doubles -/

/-- `mantissa * 2 ^ exponent`, or its opposite. -/
structure BinaryFraction where
  negative : Bool
  mantissa : Nat
  exponent : Int

inductive DoubleClass where
  | finite (x : BinaryFraction)
  | infinite (negative : Bool)
  | notANumber

/-- The parts of an IEEE 754 double, from its bits. -/
def classify (bits : UInt64) : DoubleClass :=
  let negative : Bool := bits.toNat / 0x8000000000000000 = 1
  let biased : Nat := bits.toNat / 0x10000000000000 % 0x800
  let fraction : Nat := bits.toNat % 0x10000000000000
  if biased = 2047 then if fraction = 0 then .infinite negative else .notANumber
  else if biased = 0 then .finite ⟨negative, fraction, -1074⟩
  else .finite ⟨negative, 0x10000000000000 + fraction, (biased : Int) - 1075⟩

/-- The value in units of `10 ^ -places`, rounded. -/
def BinaryFraction.units (x : BinaryFraction) (places : Nat) : Nat :=
  roundDiv ((x.mantissa * Nat.pow 10 places) <<< x.exponent.toNat) (1 <<< (-x.exponent).toNat)

def signText (negative : Bool) : String := if negative then "-" else ""

/-- The decimal of `units * 10 ^ -places` for a positive number of places. -/
def pointText (units places : Nat) : String :=
  (units / Nat.pow 10 places).repr ++ "." ++ padded places (units % Nat.pow 10 places)

def fixedText (x : Float) (places : Nat) : String :=
  match classify x.toBits with
  | .finite f => signText f.negative ++ pointText (f.units places) places
  | .infinite negative => signText negative ++ "inf"
  | .notANumber => "NaN"

end RowLoader.Decimal
