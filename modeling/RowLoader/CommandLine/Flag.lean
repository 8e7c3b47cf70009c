import RowLoader.Decimal.Numeral
import RowLoader.Profile

/-!
# Flags

The flags of the command line: switches, which stand alone, and flags with a value of a type of their own. `read?` turns the
text of a value into the value or says what is wrong with it.
-/

namespace RowLoader.CommandLine

inductive Switch where
  | truncate
  | noTruncate
  | dryRun
  | help
  deriving DecidableEq

inductive ValueFlag where
  | host
  | tcpPort
  | user
  | password
  | database
  | profile
  | table
  | batchSize
  | batchCount
  | seed
  | startOffset
  | count
  deriving DecidableEq

inductive Flag where
  | switch (s : Switch)
  | value (f : ValueFlag)
  deriving DecidableEq

/-! ### names -/

def Switch.name : Switch → String
  | truncate => "truncate"
  | noTruncate => "no-truncate"
  | dryRun => "dry-run"
  | help => "help"

def ValueFlag.name : ValueFlag → String
  | host => "mysql-host"
  | tcpPort => "mysql-port"
  | user => "mysql-user"
  | password => "mysql-password"
  | database => "mysql-database"
  | profile => "profile"
  | table => "table"
  | batchSize => "batch-size"
  | batchCount => "batch-count"
  | seed => "seed"
  | startOffset => "start-offset"
  | count => "count"

/-- The flag in capitals, words joined by underscores. -/
def ValueFlag.placeholder (f : ValueFlag) : String := f.name.map fun c => if c = '-' then '_' else c.toUpper

def Flag.name : Flag → String
  | switch s => s.name
  | value f => f.name

/-- As messages show a flag. -/
def Flag.usage : Flag → String
  | switch s => "--" ++ s.name
  | value f => "--" ++ f.name ++ " <" ++ f.placeholder ++ ">"

/-- The environment variable that stands in for a flag that is not given. -/
def ValueFlag.variable? : ValueFlag → Option String
  | host => some "MYSQL_HOST"
  | tcpPort => some "MYSQL_PORT"
  | user => some "MYSQL_USER"
  | password => some "MYSQL_PASSWORD"
  | database => some "MYSQL_DATABASE"
  | profile => some "BULKLOAD_PROFILE"
  | table => some "BULKLOAD_TABLE"
  | _ => none

/-! ### values -/

abbrev ValueFlag.Value : ValueFlag → Type
  | .host | .user | .password | .database | .table => String
  | .tcpPort => UInt16
  | .profile => Profile
  | .batchSize | .batchCount | .seed | .startOffset | .count => UInt64

inductive ValueFault where
  | numeral (fault : Decimal.NumeralFault)
  | outOfRange (n : Int)
  | unknownProfile (text : String)
  deriving DecidableEq

def ValueFault.message : ValueFault → String
  | .numeral fault => fault.message
  | .outOfRange n => Int.repr n ++ " is not in 0..=65535"
  | .unknownProfile text => Profile.unknownMessage text

def readWordValue (text : String) : Except ValueFault UInt64 := (Decimal.readWord text).mapError .numeral

/-- Read as a signed word of 64 bits first, so that a number out of range is told from one that is too large to read. -/
def readTcpPort (text : String) : Except ValueFault UInt16 :=
  match Decimal.readSigned 0x8000000000000000 text with
  | .error fault => .error (.numeral fault)
  | .ok n => if 0 ≤ n ∧ n < 65536 then .ok (UInt16.ofNat n.toNat) else .error (.outOfRange n)

def readProfile (text : String) : Except ValueFault Profile :=
  match Profile.parse? text with
  | some p => .ok p
  | none => .error (.unknownProfile text)

def ValueFlag.read : (f : ValueFlag) → String → Except ValueFault f.Value
  | .host, text | .user, text | .password, text | .database, text | .table, text => .ok text
  | .tcpPort, text => readTcpPort text
  | .profile, text => readProfile text
  | .batchSize, text | .batchCount, text | .seed, text | .startOffset, text | .count, text => readWordValue text

/-! ### settings -/

/-- A flag that was given, with its value. -/
inductive Setting where
  | switch (s : Switch)
  | value (f : ValueFlag) (v : f.Value)

namespace Setting

def flag : Setting → Flag
  | switch s => .switch s
  | value f _ => .value f

def valueOf? (f : ValueFlag) : Setting → Option f.Value
  | switch _ => none
  | value g v => if h : g = f then some (h ▸ v) else none

theorem valueOf?_self (f : ValueFlag) (v : f.Value) : valueOf? f (value f v) = some v := dif_pos rfl

theorem valueOf?_of_ne {f g : ValueFlag} (h : g ≠ f) (v : g.Value) : valueOf? f (value g v) = none := dif_neg h

end Setting

/-- In the order in which they were given. -/
abbrev Settings := List Setting

namespace Settings

def has (given : Settings) (f : Flag) : Bool := given.any fun s => s.flag = f

theorem has_append (a b : Settings) (f : Flag) : Settings.has (a ++ b) f = (a.has f || b.has f) := List.any_append

def value? (given : Settings) (f : ValueFlag) : Option f.Value := given.findSome? (Setting.valueOf? f)

end Settings

end RowLoader.CommandLine
