import RowLoader.Decimal.Numeral
import RowLoader.Text.Cut
import RowLoader.Text.Percent

/-!
# Parameters of a connection URL

The query of a URL names parameters and their values. They are looked at in order, and the first fault ends the look; the
bounds of the pool are compared once all parameters are known.
-/

namespace RowLoader.Connection

inductive ParameterFault where
  | unknown (name : String)
  | invalid (name value : String)
  /-- a pool of at least `least` and at most `most` connections, which is none -/
  | poolBounds (least most : Nat)
  deriving DecidableEq

def ParameterFault.message : ParameterFault → String
  | unknown name => s!"Unknown connection URL parameter `{name}'"
  | invalid name value => s!"Invalid value `{value}' for connection URL parameter `{name}'"
  | poolBounds least most => s!"Invalid pool constraints: pool_min ({least}) > pool_max ({most})."

/-! ### values -/

inductive ValueKind where
  /-- a number below `limit` -/
  | number (limit : Nat)
  | truth
  /-- how strongly to compress -/
  | level
  | any

def isTruth (value : String) : Bool := value == "true" || value == "false"

/-- A word, or a digit. -/
def isLevel (value : String) : Bool :=
  ["fast", "on", "true", "best"].contains value ||
    match value.toList with
    | [c] => c.isDigit
    | _ => false

def ValueKind.accepts : ValueKind → String → Bool
  | .number limit, value => (Decimal.readUnsigned limit value).isOk
  | .truth, value => isTruth value
  | .level, value => isLevel value
  | .any, _ => true

/-! ### parameters -/

structure Parameter where
  name : String
  kind : ValueKind
  /-- as messages name it -/
  label : String

def Parameter.word (name : String) : Parameter := ⟨name, .number 0x10000000000000000, name⟩

def Parameter.truth (name : String) : Parameter := ⟨name, .truth, name⟩

def parameters : List Parameter :=
  [.word "pool_min", .word "pool_max", .word "inactive_connection_ttl", .word "ttl_check_interval", .word "conn_ttl",
    .word "abs_conn_ttl", .word "abs_conn_ttl_jitter", ⟨"tcp_keepalive", .number 0x100000000, "tcp_keepalive_ms"⟩,
    .word "max_allowed_packet", .word "wait_timeout", .truth "enable_cleartext_plugin", .truth "reset_connection",
    .truth "tcp_nodelay", .word "stmt_cache_size", .truth "prefer_socket", .truth "secure_auth",
    .truth "client_found_rows", ⟨"socket", .any, "socket"⟩, ⟨"compression", .level, "compression"⟩,
    .truth "require_ssl", .truth "verify_ca", .truth "verify_identity"]

def checkParameter (name value : String) : Except ParameterFault Unit :=
  match parameters.find? fun p => p.name = name with
  | none => .error (.unknown name)
  | some p => if p.kind.accepts value then .ok () else .error (.invalid p.label value)

def checkEach : List (String × String) → Except ParameterFault Unit
  | [] => .ok ()
  | (name, value) :: rest =>
    match checkParameter name value with
    | .error e => .error e
    | .ok () => checkEach rest

/-- Of several values for a parameter the last counts. -/
def lastValue? (name : String) (given : List (String × String)) : Option String := given.reverse.lookup name

/-! ### the pool -/

def lastNumber (name : String) (default : Nat) (given : List (String × String)) : Nat :=
  match lastValue? name given with
  | none => default
  | some value => (Decimal.readUnsigned 0x10000000000000000 value).toOption.getD default

def checkParameters (given : List (String × String)) : Except ParameterFault Unit :=
  match checkEach given with
  | .error e => .error e
  | .ok () =>
    let least := lastNumber "pool_min" 10 given
    let most := lastNumber "pool_max" 100 given
    if least ≤ most then .ok () else .error (.poolBounds least most)

/-! ### queries -/

/-- In a query a plus sign stands for a blank. -/
def queryDecode (s : List Char) : String :=
  String.ofList (Text.percentDecode (s.map fun c => if c = '+' then ' ' else c))

/-- Names and values; nothing between two ampersands is no parameter, no equals sign is an empty value. -/
def queryPairs (query : List Char) : List (String × String) :=
  (Text.pieces '&' query).filterMap fun pair =>
    if pair.isEmpty then none
    else
      let cut := Text.cutFirst '=' pair
      some (queryDecode cut.1, queryDecode (cut.2.getD []))

end RowLoader.Connection
