/-!
# Profiles

A profile fixes everything about the destination of a load except the connection: table, columns, write mode and the
default batch shape. `Profile.parse?` reads a name without regard to ASCII case.
-/

namespace RowLoader

/-- How a batch treats rows whose key is already there: an `INSERT` is rejected, a `REPLACE` overwrites. -/
inductive WriteVerb where
  | insert
  | replace
  deriving DecidableEq

def WriteVerb.keyword : WriteVerb → String
  | .insert => "INSERT"
  | .replace => "REPLACE"

/-- The built-in table shapes: device rows and user account rows. -/
inductive Profile where
  | thing
  | user
  deriving DecidableEq

namespace Profile

def all : List Profile := [.thing, .user]

def name : Profile → String
  | thing => "thing"
  | user => "user"

/-! ### the destination -/

def table : Profile → String
  | thing => "thingbaseinfodata_tbl"
  | user => "user"

/-- Column names, in the order in which records list their values. -/
def columns : Profile → List String
  | thing =>
    ["thingserialno", "prethingaes128key", "thingid", "iccid", "imsi", "status", "bid", "thingaes128key",
      "eventcreationtime"]
  | user => ["id", "last_name", "first_name", "sex", "age", "phone", "address", "password", "create_time"]

def arity (p : Profile) : Nat := p.columns.length

@[simp] theorem arity_eq_nine (p : Profile) : p.arity = 9 := by cases p <;> rfl

/-- Position of the primary key among the columns. -/
def keyColumn : Profile → Nat
  | thing => 2
  | user => 0

def verb : Profile → WriteVerb
  | thing => .insert
  | user => .replace

/-- Plain inserts collide with the rows of an earlier load, so their table is cleared first. -/
def truncates (p : Profile) : Bool := p.verb = .insert

def batchSize : Profile → UInt64
  | thing => 1000
  | user => 100

def batchCount : Profile → UInt64
  | thing => 100
  | user => 1000000

/-! ### names -/

/-- Same name up to the case of ASCII letters. -/
def sameName (a b : String) : Bool := a.toList.map Char.toLower == b.toList.map Char.toLower

def parse? (text : String) : Option Profile := all.find? fun p => sameName p.name text

theorem parse?_name (p : Profile) : parse? p.name = some p := by cases p <;> decide +kernel

/-- What is said of a text that names no profile. -/
def unknownMessage (text : String) : String :=
  s!"unknown profile '{text}' (expected one of: " ++ ", ".intercalate (all.map name) ++ ")"

end Profile

end RowLoader
