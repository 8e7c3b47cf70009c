import RowLoader.Record

/-!
# Statement parameters

What a value becomes when it is bound to a placeholder. The parts of a date have the widths of the wire format: the year
keeps its low sixteen bits, and a leap second shows as the 59th with a million microseconds or more.
-/

namespace RowLoader.Sql

inductive Parameter where
  | int (n : Int64)
  | bytes (s : String)
  | date (year month day hour minute second microsecond : Nat)
  deriving DecidableEq

def Parameter.ofValue : Value → Parameter
  | .int n => .int n
  | .text s => .bytes s
  | .timestamp t =>
    .date (t.year % 65536).toNat t.month t.day t.hour t.minute t.second (t.nanosecond / 1000)

end RowLoader.Sql
