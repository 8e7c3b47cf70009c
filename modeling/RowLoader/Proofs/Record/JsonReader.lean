import Mathlib.Data.List.Basic
import RowLoader.Proofs.Decimal.Padded
import RowLoader.Text.Span

/-!
# Reading JSON

A reader of JSON texts: values of the six kinds, nested in each other, with blanks between their parts. Numbers are exact, all
escapes are resolved, members stay in order and repeated names are kept.

* `readChars`: a string up to its closing quotation mark;
* `readNumber`: a number with fraction and exponent;
* `readValue`, `read`: values, and texts that hold one value and nothing else.
-/

namespace RowLoader

/-- What a JSON text says. -/
inductive Json where
  | null
  | bool (b : Bool)
  | number (n : Rat)
  | string (s : String)
  | array (elements : List Json)
  | object (members : List (String × Json))

namespace Json

variable {α : Type}

/-! ### strings -/

/-- Four hexadecimal digits. -/
def readUnit : List Char → Option (Nat × List Char)
  | a :: b :: c :: d :: rest =>
    if [a, b, c, d].all Text.isHexDigit then some (Text.readHex [a, b, c, d], rest) else none
  | _ => none

/-- The character of one unit, or of two surrogates. A surrogate alone stands for none. -/
def readUnicode (text : List Char) : Option (Char × List Char) := do
  let (unit, rest) ← readUnit text
  if unit < 0xD800 ∨ 0xE000 ≤ unit then some (Char.ofNat unit, rest)
  else
    let behind ← rest.dropPrefix? ['\\', 'u']
    let (low, rest) ← readUnit behind
    if unit < 0xDC00 ∧ 0xDC00 ≤ low ∧ low < 0xE000 then
      some (Char.ofNat (0x10000 + 0x400 * (unit - 0xD800) + (low - 0xDC00)), rest)
    else none

/-- What a character stands for behind a backslash. -/
def unescape? : Char → Option Char
  | '"' => some '"'
  | '\\' => some '\\'
  | '/' => some '/'
  | 'b' => some '\x08'
  | 'f' => some '\x0c'
  | 'n' => some '\n'
  | 'r' => some '\r'
  | 't' => some '\t'
  | _ => none

def readEscape : List Char → Option (Char × List Char)
  | [] => none
  | c :: rest => if c = 'u' then readUnicode rest else (unescape? c).map fun e => (e, rest)

theorem length_of_readUnit {text rest : List Char} {unit : Nat} (h : readUnit text = some (unit, rest)) :
    rest.length < text.length := by
  unfold readUnit at h
  split at h
  · split at h
    · cases h
      simp only [List.length_cons]
      omega
    · cases h
  · cases h

theorem length_of_readUnicode {text rest : List Char} {c : Char} (h : readUnicode text = some (c, rest)) :
    rest.length < text.length := by
  simp only [readUnicode, Option.bind_eq_bind, Option.bind_eq_some_iff] at h
  obtain ⟨⟨unit, more⟩, hunit, h⟩ := h
  have hlt := length_of_readUnit hunit
  split at h
  · obtain ⟨-, rfl⟩ := Prod.mk.inj (Option.some.inj h)
    exact hlt
  · simp only [Option.bind_eq_some_iff] at h
    obtain ⟨behind, hbehind, ⟨low, last⟩, hlow, h⟩ := h
    obtain ⟨front, hmore, -⟩ := List.dropPrefix?_eq_some_iff.1 hbehind
    have hlast := length_of_readUnit hlow
    rw [hmore, List.length_append] at hlt
    split at h
    · obtain ⟨-, hrest⟩ := Prod.mk.inj (Option.some.inj h)
      subst hrest
      exact Nat.lt_trans hlast (by omega)
    · cases h

theorem length_of_readEscape {text rest : List Char} {c : Char} (h : readEscape text = some (c, rest)) :
    rest.length < text.length := by
  cases text with
  | nil => cases h
  | cons d text =>
    rw [readEscape] at h
    split at h
    · have hlt := length_of_readUnicode h
      rw [List.length_cons]
      omega
    · obtain ⟨e, -, heq⟩ := Option.map_eq_some_iff.1 h
      cases heq
      simp

/-- The characters up to the closing quotation mark; none below U+0020 stands for itself. -/
def readChars : List Char → Option (List Char × List Char)
  | [] => none
  | c :: text =>
    if c = '"' then some ([], text)
    else if c = '\\' then
      match _h : readEscape text with
      | none => none
      | some (e, rest) => (readChars rest).map fun p => (e :: p.1, p.2)
    else if c.toNat < 32 then none
    else (readChars text).map fun p => (c :: p.1, p.2)
termination_by text => text.length
decreasing_by
  · have hlt := length_of_readEscape _h
    simp only [List.length_cons]
    omega
  · simp

theorem readChars_backslash (text : List Char) :
    readChars ('\\' :: text) =
      (readEscape text).bind fun first => (readChars first.2).map fun p => (first.1 :: p.1, p.2) := by
  rw [readChars, if_neg (by decide), if_pos rfl]
  split
  · rename_i hread
    rw [hread, Option.bind_none]
  · rename_i hread
    rw [hread, Option.bind_some]

def readQuoted : List Char → Option (String × List Char)
  | [] => none
  | c :: text => if c = '"' then (readChars text).map fun p => (String.ofList p.1, p.2) else none

/-! ### numbers -/

/-- One digit or more. -/
def readDigitRun (text : List Char) : Option (List Char × List Char) :=
  let digits := text.takeWhile Char.isDigit
  if digits.isEmpty then none else some (digits, text.dropWhile Char.isDigit)

/-- The digits behind a point, if there is one. -/
def readFraction : List Char → Option (List Char × List Char)
  | '.' :: text => readDigitRun text
  | text => some ([], text)

/-- Digits behind a sign, if there is one. -/
def readSigned : List Char → Option (Int × List Char)
  | '-' :: text => (readDigitRun text).map fun p => (-(Nat.ofDigitChars 10 p.1 0 : Int), p.2)
  | '+' :: text => (readDigitRun text).map fun p => ((Nat.ofDigitChars 10 p.1 0 : Int), p.2)
  | text => (readDigitRun text).map fun p => ((Nat.ofDigitChars 10 p.1 0 : Int), p.2)

/-- The exponent behind its letter, if there is one. -/
def readExponent : List Char → Option (Int × List Char)
  | [] => some (0, [])
  | c :: text => if c = 'e' ∨ c = 'E' then readSigned text else some (0, c :: text)

/-- No zero stands in front of other digits. -/
def readMagnitude (text : List Char) : Option (Rat × List Char) := do
  let (whole, text) ← Decimal.readPadded 1 text
  let (places, text) ← readFraction text
  let (exponent, text) ← readExponent text
  some ((Nat.ofDigitChars 10 places whole : Rat) * (10 : Rat) ^ (exponent - places.length), text)

def readNumber : List Char → Option (Rat × List Char)
  | '-' :: text => (readMagnitude text).map fun p => (-p.1, p.2)
  | text => readMagnitude text

/-! ### lists -/

def isBlank (c : Char) : Bool := c = ' ' || c = '\t' || c = '\n' || c = '\r'

def skipBlanks (text : List Char) : List Char := text.dropWhile isBlank

/-- Items with commas between them, and the text behind the closing bracket. -/
def readItems (item : List Char → Option (α × List Char)) (close : Char) (text : List Char) :
    Option (List α × List Char) :=
  match item text with
  | none => none
  | some (a, rest) =>
    match skipBlanks rest with
    | [] => none
    | c :: more =>
      if c = close then some ([a], more)
      else if c = ',' then
        if more.length < text.length then (readItems item close more).map fun p => (a :: p.1, p.2) else none
      else none
termination_by text.length

/-- Possibly no item. -/
def readList (item : List Char → Option (α × List Char)) (close : Char) (text : List Char) :
    Option (List α × List Char) :=
  match skipBlanks text with
  | [] => none
  | c :: more => if c = close then some ([], more) else readItems item close (c :: more)

def readMember (value : List Char → Option (α × List Char)) (text : List Char) : Option ((String × α) × List Char) := do
  let (name, text) ← readQuoted (skipBlanks text)
  let text ← (skipBlanks text).dropPrefix? [':']
  let (v, text) ← value text
  some ((name, v), text)

/-! ### values -/

def readWord (text : List Char) : Option (Json × List Char) :=
  [("null", Json.null), ("true", Json.bool true), ("false", Json.bool false)].findSome? fun (word, v) =>
    (text.dropPrefix? word.toList).map fun rest => (v, rest)

/-- A value, with `nested` for the values inside it. -/
def readWith (nested : List Char → Option (Json × List Char)) (text : List Char) : Option (Json × List Char) :=
  match skipBlanks text with
  | [] => none
  | c :: rest =>
    if c = '"' then (readQuoted (c :: rest)).map fun p => (.string p.1, p.2)
    else if c = '[' then (readList nested ']' rest).map fun p => (.array p.1, p.2)
    else if c = '\x7b' then (readList (readMember nested) '\x7d' rest).map fun p => (.object p.1, p.2)
    else if c = '-' ∨ c.isDigit then (readNumber (c :: rest)).map fun p => (.number p.1, p.2)
    else readWord (c :: rest)

/-- A value that is nested less than `depth` deep. -/
def readValue : (depth : Nat) → List Char → Option (Json × List Char)
  | 0 => fun _ => none
  | depth + 1 => readWith (readValue depth)

/-- The value that a text holds. None is nested deeper than its text is long. -/
def read (text : String) : Option Json := do
  let (v, rest) ← readValue text.toList.length text.toList
  if skipBlanks rest = [] then some v else none

end Json

end RowLoader
