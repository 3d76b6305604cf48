import RingOperator.Json.Writer
import RingOperator.Settings.Flags

/-!
# The command line

Reads the flags and the settings file that they may name, and prints the
settings that the operator would run with. A command line or settings that are
not accepted are reported on the error stream.
-/

namespace RingOperator.Main

/-- The options, as help shows them. -/
def usage : String :=
  "Options:\n" ++
  "  -c, --config <FILE>         settings file\n" ++
  "  -n, --namespace <NAME>      namespace that is watched\n" ++
  "  -m, --metrics-port <PORT>   TCP port for the counts\n" ++
  "  -H, --health-port <PORT>    TCP port for the health check\n" ++
  "  -l, --log-level <LEVEL>     level of the log\n" ++
  "  -h, --help                  this text"

/-- The complaint about a command line. -/
def complaint : UsageError → String
  | .unknownArgument => "error: unexpected argument"
  | .missingValue => "error: a value is required"
  | .badNumber => "error: a port must be a number from 0 to 65535"
  | .repeated => "error: an option is given twice"
  | .unwantedValue => "error: help takes no value"
  | .help => usage

/-- The text of a file, or why it cannot be read. -/
def readFile (path : String) : IO (Except String String) := do
  try
    return .ok (← IO.FS.readFile path)
  catch failure =>
    match failure with
    | .noFileOrDirectory _ _ _ => return .error "No such file or directory (os error 2)"
    | other => return .error (toString other)

/-- The file that the flags name, read ahead. -/
def fileOf (flags : Flags) : IO (String → Except String String) := do
  match flags.config with
  | none => return fun _ => .error ""
  | some path =>
    let content ← readFile path
    return fun _ => content

/-- Prints the settings of a command line. -/
def run (arguments : List String) : IO UInt32 := do
  match Flags.read arguments with
  | .error .help =>
    IO.println usage
    return 0
  | .error error =>
    IO.eprintln (complaint error)
    return 2
  | .ok flags =>
    match flags.settings (← fileOf flags) with
    | .ok settings =>
      IO.println settings.encode.write
      return 0
    | .error failure =>
      IO.eprintln ("Error: " ++ failure.message)
      return 1

end RingOperator.Main

/-- The program. -/
def main (arguments : List String) : IO UInt32 := RingOperator.Main.run arguments
