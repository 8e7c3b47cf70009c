import RowLoader.Profile
import RowLoader.Sql.Identifier
import RowLoader.Sql.Parameter
import RowLoader.Trap

/-!
# Statements

The texts sent to the server. A batch is one statement: the columns once, one group of placeholders per row, and the
values of the rows as its parameters, row after row. `Statement.ofRecords` traps at the first record whose number of
values differs from the number of columns.
-/

namespace RowLoader.Sql

def truncateText (table : String) : String := "TRUNCATE TABLE " ++ quoteName table

def countText (table : String) : String := "SELECT COUNT(*) FROM " ++ quoteName table

/-! ### batches -/

def commaSeparated (parts : List String) : String := ", ".intercalate parts

def parenthesized (text : String) : String := "(" ++ text ++ ")"

/-- One placeholder per column. -/
def rowText (columns : Nat) : String := parenthesized (commaSeparated (List.replicate columns "?"))

def batchText (mode : WriteVerb) (table : String) (columns : List String) (rows : Nat) : String :=
  mode.keyword ++ " INTO " ++ quoteName table ++ " " ++
    parenthesized (commaSeparated (columns.map quoteName)) ++ " VALUES " ++
    commaSeparated (List.replicate rows (rowText columns.length))

structure Statement where
  text : String
  parameters : List Parameter
  rows : Nat
  deriving DecidableEq

/-- Every record has one value per column, or the first that has not. -/
def checkArity (columns : Nat) : List Record → Except Trap Unit
  | [] => .ok ()
  | r :: rest => if r.arity = columns then checkArity columns rest else .error (.arityMismatch r.arity columns)

theorem checkArity_eq_ok_iff {columns : Nat} {records : List Record} :
    checkArity columns records = .ok () ↔ ∀ r ∈ records, r.arity = columns := by
  induction records with
  | nil => simp [checkArity]
  | cons r rest ih =>
    unfold checkArity
    split
    · simp [*]
    · simp [*]

def parametersOf (records : List Record) : List Parameter :=
  records.flatMap fun r => r.values.map Parameter.ofValue

theorem parametersOf_cons (r : Record) (rest : List Record) :
    parametersOf (r :: rest) = r.values.map Parameter.ofValue ++ parametersOf rest := List.flatMap_cons

theorem length_parametersOf {columns : Nat} {records : List Record} (h : ∀ r ∈ records, r.arity = columns) :
    (parametersOf records).length = records.length * columns := by
  induction records with
  | nil => simp [parametersOf]
  | cons r rest ih =>
    have hfirst : r.values.length = columns := h r List.mem_cons_self
    have hrest := ih fun r' hr' => h r' (List.mem_cons_of_mem r hr')
    rw [parametersOf_cons, List.length_append, List.length_map, hfirst, hrest, List.length_cons, Nat.succ_mul]
    omega

def Statement.ofRecords (mode : WriteVerb) (table : String) (columns : List String) (records : List Record) :
    Except Trap Statement :=
  (checkArity columns.length records).map fun _ =>
    ⟨batchText mode table columns records.length, parametersOf records, records.length⟩

end RowLoader.Sql
