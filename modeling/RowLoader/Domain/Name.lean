import RowLoader.Domain.Direction
import RowLoader.Domain.Joiner
import RowLoader.Domain.Mapping
import RowLoader.Domain.Punycode

/-!
# Domain names

Which texts are domain names: labels with dots between them, in every script. `read?` gives a name with each character replaced
that has another in its place, and composed; a label beyond ASCII may also be given encoded, behind `xn--`.
-/

namespace RowLoader.Domain

def isAscii (c : Char) : Bool := c.toNat < 128

/-- What an encoded label starts with. -/
def encodedStart : List Char := ['x', 'n', '-', '-']

/-- How much of an encoded label is decoded. -/
def encodedLimit : Nat := 2000

/-- How long a label may be that has to be encoded. -/
def plainLimit : Nat := 1000

/-! ### labels -/

/-- A label does not start in the middle of a character, and its joiners have something to do. -/
def isWellFormed (label : List Char) : Bool := !(label.head?.any Text.isMark) && joinersFit label

/-- Only a label that has to be encoded may be, and only once, as it is after mapping and composing. -/
def mayBeEncoded (label : List Char) : Bool :=
  !(label.all isAscii) && !(encodedStart.isPrefixOf label) && isMapped label && isComposed label && isWellFormed label

/-- The label that an encoded one stands for. -/
def decodeLabel? (encoded : List Char) : Option (List Char) :=
  if encodedLimit < encoded.length then none else (Punycode.decode? encoded).filter mayBeEncoded

/-- Of a mapped and composed label. -/
def readLabel? (label : List Char) : Option (List Char) :=
  if encodedStart.isPrefixOf label then decodeLabel? (label.drop encodedStart.length)
  else if label.all isAscii then some label
  else if label.length ≤ plainLimit && isWellFormed label then some label
  else none

/-! ### names -/

/-- The labels of a mapped and composed name. -/
def readLabels? (name : List Char) : Option (List (List Char)) :=
  ((Text.pieces '.' name).mapM readLabel?).filter keepDirection

def read? (s : List Char) : Option (List Char) :=
  match mapText? s with
  | none => none
  | some mapped =>
    let name := compose mapped
    (readLabels? name).map fun _ => name

end RowLoader.Domain
