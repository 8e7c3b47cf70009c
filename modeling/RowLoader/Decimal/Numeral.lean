/-!
# Integers as text

Reading an integer that a text holds: a sign at most, then ASCII digits up to the end, judged from left to right, so that the
first character at fault decides the fault.
-/

namespace RowLoader.Decimal

inductive NumeralFault where
  | empty
  | invalidDigit
  | tooLarge
  | tooSmall
  deriving DecidableEq

def NumeralFault.message : NumeralFault → String
  | .empty => "cannot parse integer from empty string"
  | .invalidDigit => "invalid digit found in string"
  | .tooLarge => "number too large to fit in target type"
  | .tooSmall => "number too small to fit in target type"

/-- Continues the number `acc`, which stays below `limit`. -/
def readDigits (limit : Nat) (overflow : NumeralFault) : (acc : Nat) → List Char → Except NumeralFault Nat
  | acc, [] => .ok acc
  | acc, c :: r =>
    if c.isDigit then
      let n := 10 * acc + (c.toNat - '0'.toNat)
      if n < limit then readDigits limit overflow n r else .error overflow
    else .error .invalidDigit

/-- Without the sign that may stand in front; a sign alone is no number. -/
def readUnsigned (limit : Nat) (text : String) : Except NumeralFault Nat :=
  match text.toList with
  | [] => .error .empty
  | ['+'] => .error .invalidDigit
  | '+' :: r => readDigits limit .tooLarge 0 r
  | s => readDigits limit .tooLarge 0 s

/-- From `-limit` to below `limit`. -/
def readSigned (limit : Nat) (text : String) : Except NumeralFault Int :=
  match text.toList with
  | ['-'] => .error .invalidDigit
  | '-' :: r => (readDigits (limit + 1) .tooSmall 0 r).map fun n => -(n : Int)
  | _ => (readUnsigned limit text).map fun n => (n : Int)

def readWord (text : String) : Except NumeralFault UInt64 := (readUnsigned 0x10000000000000000 text).map UInt64.ofNat

end RowLoader.Decimal
