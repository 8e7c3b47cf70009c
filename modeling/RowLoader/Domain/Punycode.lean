import RowLoader.Text.Cut

/-!
# Punycode

Text beyond ASCII in letters, digits and hyphens. What is ASCII comes first, then a hyphen, then numbers that say which other
characters go in and where. A digit of a number is the last one if it is below a threshold; thresholds follow the size of the
numbers read before.
-/

namespace RowLoader.Domain.Punycode

/-- Letters come before digits. -/
def digit? (c : Char) : Option Nat :=
  if 'a' ≤ c ∧ c ≤ 'z' then some (c.toNat - 97)
  else if 'A' ≤ c ∧ c ≤ 'Z' then some (c.toNat - 65)
  else if '0' ≤ c ∧ c ≤ '9' then some (c.toNat - 48 + 26)
  else none

def base : Nat := 36

/-- At the first digit of a number `step` is the base, and it goes up by the base from digit to digit. -/
def threshold (step bias : Nat) : Nat := if step ≤ bias then 1 else min (step - bias) 26

/-- How often a number has to be divided before it is small, in steps of the base, and the small number. -/
def scaleDown (n : Nat) : Nat × Nat :=
  if 455 < n then
    let (steps, small) := scaleDown (n / 35)
    (steps + base, small)
  else (0, n)
termination_by n
decreasing_by exact Nat.div_lt_self (by omega) (by omega)

/-- Behind a number; the first one tends to be large. -/
def nextBias (number size : Nat) (isFirst : Bool) : Nat :=
  let n := if isFirst then number / 700 else number / 2
  let (steps, small) := scaleDown (n + n / size)
  steps + base * small / (small + 38)

/-- What was read so far. -/
structure State where
  text : List Char
  /-- the code point of the character that went in last -/
  point : Nat
  /-- the place behind that character -/
  behind : Nat
  bias : Nat
  /-- the number that is being read, from its low digits -/
  number : Nat
  weight : Nat
  step : Nat

def State.start (text : List Char) : State := ⟨text, 128, 0, 72, 0, 1, base⟩

/-- Code points that no character has are refused. -/
def char? (n : Nat) : Option Char := if n.isValidChar then some (Char.ofNat n) else none

/-- A number counts places of the text; behind the last one comes the first with the next code point. -/
def State.insert? (s : State) (number : Nat) : Option State :=
  let size := s.text.length + 1
  let point := s.point + (s.behind + number) / size
  let here := (s.behind + number) % size
  (char? point).map fun c =>
    ⟨s.text.insertIdx here c, point, here + 1, nextBias number size (s.behind = 0), 0, 1, base⟩

def State.read? (s : State) (c : Char) : Option State :=
  match digit? c with
  | none => none
  | some d =>
    let number := s.number + d * s.weight
    let t := threshold s.step s.bias
    if d < t then s.insert? number
    else some { s with number := number, weight := s.weight * (base - t), step := s.step + base }

/-- The last number has to be complete. -/
def State.finish? (s : State) : Option (List Char) := if s.step = base then some s.text else none

/-- The part before the last hyphen, if there is something in it, and the numbers. -/
def parts (s : List Char) : List Char × List Char :=
  match Text.cutLast '-' s with
  | (numbers, some (c :: r)) => (c :: r, numbers)
  | _ => ([], s)

def decode? (s : List Char) : Option (List Char) :=
  ((parts s).2.foldlM State.read? (.start (parts s).1)).bind State.finish?

end RowLoader.Domain.Punycode
