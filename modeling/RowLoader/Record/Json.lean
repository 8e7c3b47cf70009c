import RowLoader.Record

/-!
# Records as JSON lines

A record paired with column names is written as one object, its members in column order up to the shorter of the two
lists and repeated names kept. Texts escape the quotation mark, the backslash and the characters below U+0020.
-/

namespace RowLoader.Json

/-! ### strings -/

def escapeChar (c : Char) : List Char :=
  match c with
  | '"' => ['\\', '"']
  | '\\' => ['\\', '\\']
  | '\x08' => ['\\', 'b']
  | '\t' => ['\\', 't']
  | '\n' => ['\\', 'n']
  | '\x0c' => ['\\', 'f']
  | '\r' => ['\\', 'r']
  | c =>
    if c.toNat < 32 then ['\\', 'u', '0', '0', Nat.digitChar (c.toNat / 16), Nat.digitChar (c.toNat % 16)]
    else [c]

def escape (s : List Char) : List Char := s.flatMap escapeChar

@[simp] theorem escape_nil : escape [] = [] := rfl

@[simp] theorem escape_cons (c : Char) (s : List Char) : escape (c :: s) = escapeChar c ++ escape s := rfl

def quote (s : String) : String := String.ofList ('"' :: (escape s.toList ++ ['"']))

theorem toList_quote (s : String) : (quote s).toList = '"' :: (escape s.toList ++ ['"']) := String.toList_ofList

end RowLoader.Json

namespace RowLoader

/-! ### values and records -/

def Value.json : Value → String
  | .int n => Int.repr n.toInt
  | .text s => Json.quote s
  | .timestamp t => Json.quote t.text

def Json.member (name : String) (v : Value) : String := quote name ++ ":" ++ v.json

/-- The object whose members pair `columns` with the values of `r`. -/
def Record.json (columns : List String) (r : Record) : String :=
  "\x7b" ++ ",".intercalate (List.zipWith Json.member columns r.values) ++ "\x7d"

end RowLoader
