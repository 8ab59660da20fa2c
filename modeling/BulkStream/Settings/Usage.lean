/-!
Why a command line is not carried out. Asking for help or for the version is one of the reasons; it
alone is no mistake.
-/
namespace BulkStream.Settings

inductive UsageError
  | helpWanted
  | versionWanted
  /-- Nothing at all was asked. -/
  | nothingAsked
  | unknownCommand
  | unknownArgument
  /-- An argument was given twice. -/
  | repeatedArgument
  /-- A value was attached to an argument that takes none. -/
  | needlessValue
  /-- A value is missing, or is none of those to choose from. -/
  | invalidValue
  /-- A number is not written as one, or lies out of range. -/
  | invalidNumber
  | missingArgument
deriving DecidableEq, Repr

namespace UsageError

def status : UsageError → Nat
  | .helpWanted | .versionWanted => 0
  | _ => 2

def message : UsageError → String
  | .helpWanted => "help wanted"
  | .versionWanted => "version wanted"
  | .nothingAsked => "a command is needed"
  | .unknownCommand => "unrecognized command"
  | .unknownArgument => "unexpected argument"
  | .repeatedArgument => "an argument cannot be used multiple times"
  | .needlessValue => "unexpected value for a flag"
  | .invalidValue => "a value is missing or invalid"
  | .invalidNumber => "invalid number"
  | .missingArgument => "a required argument was not provided"

def help : String :=
  "Usage: fifocap <COMMAND>\n\nCommands:\n" ++
    "  capture [OPTIONS] [FILE]  Stream from the device into FILE, or from FILE to the device\n" ++
    "  check [OPTIONS] <FILE>    Check a dump file for sequence errors\n"

def notice : UsageError → String
  | .helpWanted => help
  | .versionWanted => "fifocap 0.3.0\n"
  | .nothingAsked => help
  | error => "error: " ++ error.message ++ "\n\n" ++ help

end UsageError

end BulkStream.Settings
