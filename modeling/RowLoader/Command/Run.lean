import RowLoader.Command.Generate
import RowLoader.Command.Populate

/-!
# The command line

Reads the arguments, runs the command, and says what goes to the two outputs and how the program ends: 0, 1 for a failure,
2 for arguments that cannot be read.
-/

namespace RowLoader

namespace CommandLine

inductive Command where
  | populate (o : LoadOptions)
  | generate (o : GenerateOptions)

def commandNames : List String := ["populate", "generate", "help"]

/-- Help on a command; a command has no commands of its own. -/
def helpOn : List String → UsageError
  | [] => .help
  | name :: rest =>
    if commandNames.contains name then
      match rest with
      | [] => .help
      | stray :: _ => .unknownCommand stray
    else .unknownCommand name

/-- Behind `--` no command is looked for; alone it is as good as nothing. -/
def Command.read (env : Environment) : List String → Except UsageError Command
  | [] => .error .noArguments
  | a :: rest =>
    match Argument.ofString a with
    | .separator =>
      match rest with
      | [] => .error .noArguments
      | name :: _ => .error (if commandNames.contains name then .unknownArgument name else .unknownCommand name)
    | .long "help" none => .error .help
    | .long "help" (some text) => .error (.unexpectedValue .help text)
    | .long name _ => .error (.unknownArgument ("--" ++ name))
    | .short 'h' => .error .help
    | .short letter => .error (.unknownArgument (String.ofList ['-', letter]))
    | .word "populate" => (LoadOptions.read env rest).map .populate
    | .word "generate" => (GenerateOptions.read rest).map .generate
    | .word "help" => .error (helpOn rest)
    | .word name => .error (.unknownCommand name)

/-- The variable that sets the log level. -/
def levelVariable : String := "RUST_LOG"

/-- A level by name or number; the highest one shows no more than the one below it. -/
def rankOfWord? (word : String) : Option Nat :=
  match word.map Char.toLower with
  | "off" => some 0
  | "error" => some Level.error.rank
  | "warn" => some Level.warn.rank
  | "info" => some Level.info.rank
  | "debug" => some Level.debug.rank
  | "trace" => some (Level.debug.rank + 1)
  | digits =>
    match Decimal.readDigits (Level.debug.rank + 2) .tooLarge 0 digits.toList with
    | .ok rank => some rank
    | .error _ => none

def isFilterWord (word : String) : Bool := word.all fun c => c.isAlphanum || c == '_' || c == '-' || c == ':'

/-- The highest rank that is shown. Of several levels the last one counts; a word that is no level asks for a part of the
program that there is not. -/
def rankOfFilter (filter : String) : Nat :=
  let words := (filter.splitOn ",").filter fun word => !word.isEmpty
  if words.isEmpty then Level.error.rank
  else if words.all isFilterWord then (words.filterMap rankOfWord?).getLast?.getD 0
  else Level.info.rank

def shownRank (env : Environment) : Nat := ((List.lookup levelVariable env).map rankOfFilter).getD Level.info.rank

end CommandLine

/-! ### reports -/

structure Report where
  output : List Line
  errors : List String
  exitCode : UInt32

def Line.isShown (rank : Nat) : Line → Bool
  | .log e => e.level.rank ≤ rank
  | .text _ => true

/-- Help is printed like any other answer. -/
def Report.ofUsageError : CommandLine.UsageError → Report
  | .help => ⟨[.text CommandLine.UsageError.help.printed], [], 0⟩
  | e => ⟨[], [e.printed], 2⟩

def Report.ofAnswer (rank : Nat) (answer : Except CommandError Unit) (lines : List Line) : Report :=
  let shown := lines.filter (Line.isShown rank)
  match answer with
  | .ok () => ⟨shown, [], 0⟩
  | .error e => ⟨shown, ["Error: " ++ e.message], 1⟩

/-- A run of the program: arguments without the program's name, the variables it sees, the server it may talk to. -/
def runCommand {σ : Type} [Server σ] (env : CommandLine.Environment) (arguments : List String) (moment : Moment)
    (server : σ) : Except Trap (Report × σ) :=
  let rank := CommandLine.shownRank env
  match CommandLine.Command.read env arguments with
  | .error e => .ok (.ofUsageError e, server)
  | .ok (.populate o) =>
    (populate o moment server).map fun finished => (.ofAnswer rank finished.answer finished.lines, finished.server)
  | .ok (.generate o) =>
    (generateRecords o moment.now).map fun p => (.ofAnswer rank p.1 p.2, server)

end RowLoader
