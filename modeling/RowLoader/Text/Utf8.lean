/-!
# Bytes as text

Reading UTF-8 without refusing anything: the longest start of a character that comes to nothing is read as one replacement
character, and so is a byte with which no character starts.
-/

namespace RowLoader.Text

def replacement : Char := '\uFFFD'

/-- A character whose first bytes were read, and the range in which its next byte lies. -/
structure Unfinished where
  value : Nat
  missing : Nat
  least : UInt8
  most : UInt8
  deriving DecidableEq

/-- The characters read so far stand in front. -/
abbrev Decoded := List Char × Option Unfinished

/-- The byte at the start of a character. Surrogates, and numbers above the last character, are ruled out by the second byte. -/
def startCharacter (b : UInt8) : Decoded :=
  let n := b.toNat
  if n < 0x80 then ([Char.ofNat n], none)
  else if n < 0xC2 then ([replacement], none)
  else if n < 0xE0 then ([], some ⟨n - 0xC0, 1, 0x80, 0xBF⟩)
  else if n = 0xE0 then ([], some ⟨0, 2, 0xA0, 0xBF⟩)
  else if n = 0xED then ([], some ⟨0xD, 2, 0x80, 0x9F⟩)
  else if n < 0xF0 then ([], some ⟨n - 0xE0, 2, 0x80, 0xBF⟩)
  else if n = 0xF0 then ([], some ⟨0, 3, 0x90, 0xBF⟩)
  else if n < 0xF4 then ([], some ⟨n - 0xF0, 3, 0x80, 0xBF⟩)
  else if n = 0xF4 then ([], some ⟨4, 3, 0x80, 0x8F⟩)
  else ([replacement], none)

def takeByte (u : Option Unfinished) (b : UInt8) : Decoded :=
  match u with
  | none => startCharacter b
  | some u =>
    if u.least ≤ b ∧ b ≤ u.most then
      let value := 64 * u.value + (b.toNat - 0x80)
      if u.missing ≤ 1 then ([Char.ofNat value], none) else ([], some ⟨value, u.missing - 1, 0x80, 0xBF⟩)
    else
      let next := startCharacter b
      (replacement :: next.1, next.2)

def decodeFrom : Option Unfinished → List UInt8 → List Char
  | none, [] => []
  | some _, [] => [replacement]
  | u, b :: r =>
    let next := takeByte u b
    next.1 ++ decodeFrom next.2 r

def decodeUtf8 (bytes : List UInt8) : List Char := decodeFrom none bytes

end RowLoader.Text
