import RowLoader.Timestamp

/-!
# Records

A record is one row before it is written: its offset in the run and its values in column order. `display` is the form
shown to people, texts and timestamps between apostrophes and nothing escaped.
-/

namespace RowLoader

inductive Value where
  | int (n : Int64)
  | text (s : String)
  | timestamp (t : Timestamp)
  deriving DecidableEq

def Value.display : Value → String
  | .int n => Int.repr n.toInt
  | .text s => "'" ++ s ++ "'"
  | .timestamp t => "'" ++ t.text ++ "'"

structure Record where
  offset : UInt64
  values : List Value
  deriving DecidableEq

namespace Record

def arity (r : Record) : Nat := r.values.length

def get? (r : Record) (column : Nat) : Option Value := r.values[column]?

def display (r : Record) : String := "(" ++ ", ".intercalate (r.values.map Value.display) ++ ")"

end Record

end RowLoader
