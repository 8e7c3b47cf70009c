import RowLoader.CommandLine.Scan
import RowLoader.Connection.Settings
import RowLoader.Plan

/-!
# Options

The three sets of flags, and what their settings amount to: a plan, where to connect, which records to print. A flag wins
over its variable, which wins over the default.
-/

namespace RowLoader.CommandLine

def planFlags : List ValueFlag := [.profile, .table, .batchSize, .batchCount, .seed, .startOffset]

def connectionFlags : List ValueFlag := [.host, .tcpPort, .user, .password, .database]

def switches : List Switch := [.truncate, .noTruncate, .dryRun]

/-- Help can always be asked for. -/
def flagsOf (values : List ValueFlag) (switches : List Switch) : List Flag :=
  values.map .value ++ (switches ++ [Switch.help]).map .switch

/-- The settings of the arguments and, for what they leave open, of the environment. -/
def readSettings (values : List ValueFlag) (switches : List Switch) (env : Environment) (arguments : List String) :
    Except UsageError Settings := do
  let given ← Scan.run (flagsOf values switches) .start arguments
  let given ← addVariables env values given
  checkConflict given
  return given

/-! ### what to load -/

structure PlanOptions where
  profile : Profile
  table : Option String
  batchSize : Option UInt64
  batchCount : Option UInt64
  seed : UInt64
  startOffset : UInt64
  truncate : Bool
  noTruncate : Bool
  dryRun : Bool
  deriving DecidableEq

def PlanOptions.ofSettings (given : Settings) : PlanOptions :=
  { profile := (given.value? .profile).getD .user
    table := given.value? .table
    batchSize := given.value? .batchSize
    batchCount := given.value? .batchCount
    seed := (given.value? .seed).getD LoadPlan.defaultSeed
    startOffset := (given.value? .startOffset).getD 0
    truncate := given.has (.switch .truncate)
    noTruncate := given.has (.switch .noTruncate)
    dryRun := given.has (.switch .dryRun) }

/-- What was not said is as the profile has it. -/
def PlanOptions.plan (o : PlanOptions) : LoadPlan :=
  { profile := o.profile
    table := o.table.getD o.profile.table
    batchSize := o.batchSize.getD o.profile.batchSize
    batchCount := o.batchCount.getD o.profile.batchCount
    seed := o.seed
    startOffset := o.startOffset
    truncate := if o.truncate then true else if o.noTruncate then false else o.profile.truncates }

def PlanOptions.read (env : Environment) (arguments : List String) : Except UsageError PlanOptions :=
  (readSettings planFlags switches env arguments).map PlanOptions.ofSettings

/-! ### what to load, and where to -/

structure LoadOptions where
  connection : Connection.Settings
  plan : PlanOptions
  deriving DecidableEq

def LoadOptions.ofSettings (given : Settings) : Except UsageError LoadOptions :=
  match given.value? .database with
  | none => .error .missingRequired
  | some database =>
    .ok
      { connection :=
          { host := (given.value? .host).getD "127.0.0.1"
            tcpPort := (given.value? .tcpPort).getD (3306 : UInt16)
            user := (given.value? .user).getD "root"
            password := (given.value? .password).getD ""
            database := database }
        plan := PlanOptions.ofSettings given }

def LoadOptions.read (env : Environment) (arguments : List String) : Except UsageError LoadOptions := do
  LoadOptions.ofSettings (← readSettings (connectionFlags ++ planFlags) switches env arguments)

/-! ### which records to print -/

structure GenerateOptions where
  profile : Profile
  count : UInt64
  seed : UInt64
  startOffset : UInt64
  deriving DecidableEq

def GenerateOptions.ofSettings (given : Settings) : GenerateOptions :=
  { profile := (given.value? .profile).getD .user
    count := (given.value? .count).getD (10 : UInt64)
    seed := (given.value? .seed).getD LoadPlan.defaultSeed
    startOffset := (given.value? .startOffset).getD (0 : UInt64) }

/-- No variable stands in for these. -/
def GenerateOptions.read (arguments : List String) : Except UsageError GenerateOptions :=
  (readSettings [.profile, .count, .seed, .startOffset] [] [] arguments).map GenerateOptions.ofSettings

end RowLoader.CommandLine
