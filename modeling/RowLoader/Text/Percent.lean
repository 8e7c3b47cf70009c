import RowLoader.Text.Utf8

/-!
# Percent encoding

A percent sign and two hexadecimal digits stand for a byte, every other character for its own bytes.
-/

namespace RowLoader.Text

def hexDigitValue? (c : Char) : Option UInt8 :=
  if '0' ≤ c ∧ c ≤ '9' then some (c.toNat - 48).toUInt8
  else if 'a' ≤ c ∧ c ≤ 'f' then some (c.toNat - 87).toUInt8
  else if 'A' ≤ c ∧ c ≤ 'F' then some (c.toNat - 55).toUInt8
  else none

def isHexDigit (c : Char) : Bool := (hexDigitValue? c).isSome

def percentBytes : List Char → List UInt8
  | '%' :: a :: b :: r =>
    match hexDigitValue? a, hexDigitValue? b with
    | some x, some y => (16 * x + y) :: percentBytes r
    | _, _ => String.utf8EncodeChar '%' ++ percentBytes (a :: b :: r)
  | c :: r => String.utf8EncodeChar c ++ percentBytes r
  | [] => []

def percentDecode (s : List Char) : List Char := decodeUtf8 (percentBytes s)

end RowLoader.Text
