import RingOperator.Settings.Codec

/-!
# Command-line flags

Five options with a value each, and help. An option is written `--name value`,
`--name=value`, `-n value`, `-nvalue` or `-n=value`, at most once; nothing else
stands on the command line. A value of its own argument does not start with a
dash, unless it is the dash alone.

Arguments are read from left to right. An option whose value is still awaited
is settled when the next option is met or the arguments end, so an argument
that belongs nowhere is reported before a fault of the value in front of it.
-/

namespace RingOperator

namespace Flags

/-- The options that take a value. -/
inductive Switch where
  | config | watched | metricsPort | healthPort | logLevel
  deriving DecidableEq

end Flags

/-- The values of the options that are given. -/
structure Flags where
  /-- The path of the settings file. -/
  config : Option String := none
  watched : Option String := none
  metricsPort : Option Nat := none
  healthPort : Option Nat := none
  logLevel : Option String := none
  deriving DecidableEq

/-- Why a command line is not obeyed. -/
inductive UsageError where
  /-- An argument that is no option and no value of one. -/
  | unknownArgument
  /-- An option without its value. -/
  | missingValue
  /-- A value that is no port. -/
  | badNumber
  /-- An option given twice. -/
  | repeated
  /-- A value for the help flag. -/
  | unwantedValue
  /-- Help is asked for. -/
  | help
  deriving DecidableEq

namespace Flags

/-- A port as the text of an option: a number with an optional sign, between zero and the
greatest port. -/
def portOf (value : String) : Option Nat :=
  match Text.Numeral.signed value.toList with
  | some n => if 0 ≤ n ∧ n ≤ 65535 then some n.toNat else none
  | none => none

/-- The flags with one option set. -/
def put (flags : Flags) (option : Switch) (value : String) : Except UsageError Flags :=
  match option with
  | .config =>
    if flags.config.isSome then .error .repeated
    else if value = "" then .error .missingValue
    else .ok { flags with config := some value }
  | .watched =>
    if flags.watched.isSome then .error .repeated
    else .ok { flags with watched := some value }
  | .metricsPort =>
    if flags.metricsPort.isSome then .error .repeated
    else match portOf value with
      | some port => .ok { flags with metricsPort := some port }
      | none => .error .badNumber
  | .healthPort =>
    if flags.healthPort.isSome then .error .repeated
    else match portOf value with
      | some port => .ok { flags with healthPort := some port }
      | none => .error .badNumber
  | .logLevel =>
    if flags.logLevel.isSome then .error .repeated
    else .ok { flags with logLevel := some value }

/-- The option of a long name. -/
def longOption : List (String × Switch) :=
  [("config", .config), ("namespace", .watched), ("metrics-port", .metricsPort),
    ("health-port", .healthPort), ("log-level", .logLevel)]

/-- The option of a letter. -/
def shortOption : List (Char × Switch) :=
  [('c', .config), ('n', .watched), ('m', .metricsPort), ('H', .healthPort), ('l', .logLevel)]

/-- An option that awaits its value, or has it and is not settled yet. -/
inductive Pending where
  | nothing
  | awaiting (option : Switch)
  | holding (option : Switch) (value : String)

/-- Settles a pending option. -/
def settle (flags : Flags) : Pending → Except UsageError Flags
  | .nothing => .ok flags
  | .awaiting _ => .error .missingValue
  | .holding option value => flags.put option value

/-- The text before the first equals sign, and what follows the sign. -/
def splitValue (argument : List Char) : List Char × Option (List Char) :=
  match argument.span (· ≠ '=') with
  | (name, _ :: value) => (name, some value)
  | (name, []) => (name, none)

/-- The option of an argument that starts with two dashes. -/
def long (flags : Flags) (pending : Pending) (argument : List Char) :
    Except UsageError (Flags × Pending) := do
  let (name, value) := splitValue argument
  let name := String.ofList name
  if name = "help" then
    if value.isSome then .error .unwantedValue
    else do
      let _ ← settle flags pending
      .error .help
  else
    match longOption.lookup name with
    | none => .error .unknownArgument
    | some option =>
      let flags ← settle flags pending
      match value with
      | some value => return (← flags.put option (String.ofList value), .nothing)
      | none => return (flags, .awaiting option)

/-- The option of an argument that starts with one dash: a letter, and the value behind it. -/
def short (flags : Flags) (pending : Pending) : List Char →
    Except UsageError (Flags × Pending)
  | [] => .error .unknownArgument
  | 'h' :: _ => do
    let _ ← settle flags pending
    .error .help
  | letter :: rest =>
    match shortOption.lookup letter with
    | none => .error .unknownArgument
    | some option => do
      let flags ← settle flags pending
      match rest with
      | [] => return (flags, .awaiting option)
      | '=' :: value => return (← flags.put option (String.ofList value), .nothing)
      | value => return (← flags.put option (String.ofList value), .nothing)

/-- Reads the arguments from left to right. -/
def readFrom (flags : Flags) (pending : Pending) : List String → Except UsageError Flags
  | [] => settle flags pending
  | argument :: rest =>
    match argument.toList, pending with
    | ['-', '-'], _ =>
      match rest with
      | [] => settle flags pending
      | _ => .error .unknownArgument
    | '-' :: '-' :: name, _ => do
      let (flags, pending) ← long flags pending name
      readFrom flags pending rest
    | '-' :: letter :: more, _ => do
      let (flags, pending) ← short flags pending (letter :: more)
      readFrom flags pending rest
    | _, .awaiting option => readFrom flags (.holding option argument) rest
    | _, _ => .error .unknownArgument

/-- The flags of a command line. -/
def read (arguments : List String) : Except UsageError Flags :=
  readFrom {} .nothing arguments

/-- The settings with the values of the flags that are given. -/
def override (flags : Flags) (settings : Settings) : Settings := {
  settings with
  watched := flags.watched.getD settings.watched
  metricsPort := flags.metricsPort.getD settings.metricsPort
  healthPort := flags.healthPort.getD settings.healthPort
  logLevel := flags.logLevel.getD settings.logLevel }

/-- The settings of a process: those of the file, if one is named, or the defaults, changed by
the flags. Both the file and the result must be accepted. -/
def settings (flags : Flags) (file : String → Except String String) : Outcome Settings := do
  let base ← match flags.config with
    | none => Except.ok ({} : Settings)
    | some path =>
      match file path with
      | .ok content => Settings.ofFile content
      | .error reason => .error (Settings.missingFile path reason)
  let merged := flags.override base
  merged.check
  return merged

end Flags

end RingOperator
