import RowLoader.CommandLine.Flag
import RowLoader.Text.Control
import RowLoader.Text.Cut

/-!
# Scanning arguments

Arguments are read from left to right. A value follows its flag after an equals sign or as the next argument; in the second
case it is looked at only when the next flag, or the end, is reached. The first fault ends the scan.
-/

namespace RowLoader.CommandLine

inductive UsageError where
  | invalidValue (f : ValueFlag) (text : String) (fault : ValueFault)
  | unknownArgument (text : String)
  | missingValue (f : ValueFlag)
  | repeated (f : Flag)
  | conflict (first second : Switch)
  | unexpectedValue (s : Switch) (text : String)
  | missingRequired
  | unknownCommand (name : String)
  | noArguments
  /-- help was asked for, which is no fault but ends the scan as well -/
  | help
  deriving DecidableEq

/-- What the program is for. -/
def purpose : String := "Generate synthetic rows and bulk-load them into a MySQL table"

/-- The last lines of a message; they begin in the part that ends with `last`. -/
def pointToHelp (last : String) : List String := [last ++ "\n\nFor more information, try '", "--help", "'.\n"]

/-- The parts of a message; parts that quote an argument, or name a flag, stand out on a terminal. The reason against a value
does not, though it may quote the value, so the lines behind it belong to its part. -/
def UsageError.parts : UsageError → List String
  | invalidValue f text fault =>
    ["error: invalid value '", text, "' for '", (Flag.value f).usage] ++ pointToHelp ("': " ++ fault.message)
  | unknownArgument text => ["error: unexpected argument '", text, "' found"]
  | missingValue f => ["error: a value is required for '", (Flag.value f).usage, "' but none was supplied"]
  | repeated f => ["error: the argument '", f.usage, "' cannot be used multiple times"]
  | conflict first second =>
    ["error: the argument '", (Flag.switch first).usage, "' cannot be used with '", (Flag.switch second).usage, "'"]
  | unexpectedValue s text =>
    ["error: unexpected value '", text, "' for '", (Flag.switch s).usage, "' found; no more were expected"]
  | missingRequired => ["error: the following required arguments were not provided:"]
  | unknownCommand name => ["error: unrecognized subcommand '", name, "'"]
  | noArguments | help => [purpose]

/-- Without control characters; an escape sequence ends with its part at the latest. -/
def UsageError.message (e : UsageError) : String := String.join (e.parts.map (Text.dropControls .ends))

/-- The message as it is printed. -/
def UsageError.printed (e : UsageError) : String := String.join (e.parts.map (Text.dropControls .suspends))

/-! ### arguments -/

inductive Argument where
  /-- `--`, behind which nothing is a flag -/
  | separator
  | long (name : String) (attached : Option String)
  | short (letter : Char)
  | word (text : String)
  deriving DecidableEq

def Argument.ofString (text : String) : Argument :=
  match text.toList with
  | ['-', '-'] => .separator
  | '-' :: '-' :: r =>
    let cut := Text.cutFirst '=' r
    .long (String.ofList cut.1) (cut.2.map String.ofList)
  | '-' :: c :: _ => .short c
  | _ => .word text

/-! ### the scan -/

/-- What was read so far, and the flag that still waits for its value or for its value to be looked at. -/
structure Scan where
  given : Settings
  pending : Option (ValueFlag × Option String)

namespace Scan

def start : Scan := ⟨[], none⟩

def putSwitch (given : Settings) (s : Switch) : Except UsageError Settings :=
  if given.has (.switch s) then .error (.repeated (.switch s)) else .ok (given ++ [.switch s])

def putValue (given : Settings) (f : ValueFlag) (text : String) : Except UsageError Settings :=
  if given.has (.value f) then .error (.repeated (.value f))
  else
    match f.read text with
    | .error fault => .error (.invalidValue f text fault)
    | .ok v => .ok (given ++ [.value f v])

/-- The settings with the pending value looked at. -/
def settle (s : Scan) : Except UsageError Settings :=
  match s.pending with
  | none => .ok s.given
  | some (f, none) => .error (.missingValue f)
  | some (f, some text) => putValue s.given f text

def takeFlag (s : Scan) : Flag → (attached : Option String) → Except UsageError Scan
  | .switch w, some text => .error (.unexpectedValue w text)
  | .switch .help, none => do
    let _ ← s.settle
    .error .help
  | .switch w, none => do
    let given ← putSwitch (← s.settle) w
    return ⟨given, none⟩
  | .value f, some text => do
    let given ← putValue (← s.settle) f text
    return ⟨given, none⟩
  | .value f, none => do
    return ⟨← s.settle, some (f, none)⟩

/-- A word is the value of the flag before it, if that waits for one. -/
def takeWord (s : Scan) (text : String) : Except UsageError Scan :=
  match s.pending with
  | some (f, none) => .ok { s with pending := some (f, some text) }
  | _ => .error (.unknownArgument text)

def run (flags : List Flag) : Scan → List String → Except UsageError Settings
  | s, [] => s.settle
  | s, a :: rest =>
    match Argument.ofString a with
    | .separator =>
      match rest with
      | [] => s.settle
      | stray :: _ => .error (.unknownArgument stray)
    | .long name attached =>
      match flags.find? fun f => f.name = name with
      | none => .error (.unknownArgument ("--" ++ name))
      | some f =>
        match s.takeFlag f attached with
        | .error e => .error e
        | .ok s => run flags s rest
    | .short letter =>
      if letter = 'h' then s.settle.bind fun _ => .error .help
      else .error (.unknownArgument (String.ofList ['-', letter]))
    | .word text =>
      match s.takeWord text with
      | .error e => .error e
      | .ok s => run flags s rest

end Scan

/-! ### the environment and conflicts -/

abbrev Environment := List (String × String)

/-- Adds the variables of the flags that were not given. -/
def addVariables (env : Environment) : List ValueFlag → Settings → Except UsageError Settings
  | [], given => .ok given
  | f :: rest, given =>
    match given.has (.value f), f.variable?.bind fun name => List.lookup name env with
    | false, some text =>
      match Scan.putValue given f text with
      | .error e => .error e
      | .ok given => addVariables env rest given
    | _, _ => addVariables env rest given

/-- Both settings of the switch that clears the table, the one given first named first. -/
def checkConflict (given : Settings) : Except UsageError Unit :=
  match given.filterMap (fun s => match s with
    | .switch .truncate => some Switch.truncate
    | .switch .noTruncate => some Switch.noTruncate
    | _ => none) with
  | first :: second :: _ => .error (.conflict first second)
  | _ => .ok ()

end RowLoader.CommandLine
