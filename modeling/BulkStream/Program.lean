import BulkStream.Capture.DumpCheck
import BulkStream.Capture.Simulated
import BulkStream.Log.Filter
import BulkStream.Settings.CommandLine
import BulkStream.Settings.VariableFile

/-!
The whole program, from its command line, its variables and its disk to its exit status, the log
lines it shows and what it leaves on the disk.
-/
namespace BulkStream

open Capture Integrity Settings Storage

structure Invocation where
  /-- The command line, without the name of the program. -/
  words : List String
  environment : Variables := []
  disk : Disk := {}
  interruption : Interruption := {}
deriving DecidableEq, Repr

structure Completed where
  ending : Ending
  /-- Log lines that are shown, in order. -/
  lines : List LogLine := []
  disk : Disk

def Filter.ofVariables (v : Variables) : Filter :=
  ((v.lookup Filter.variableName).bind Filter.ofText?).getD Filter.standard

/-- The ending of a call that asks for nothing that can be done. -/
def usageEnding (error : UsageError) : Ending := { status := error.status, notice := error.notice }

def variableFile : String := ".env"

namespace Invocation

/-- The variables of a call, and those of its file that are not set. -/
def allVariables (i : Invocation) : Variables :=
  match i.disk.lookup (workingDirectory ++ [variableFile]) with
  | some (.file data) => Variables.readFile data.toBytes i.environment
  | _ => i.environment

/-- Run a check; nothing is returned if its file has no end. -/
def runCheck (o : CheckOptions) (disk : Disk) : Option (Except Failure Report × List LogLine) :=
  match disk.openRead o.file with
  | .error error => some (checkFile o (.error error))
  | .ok content => (readAnswers? content).map fun answers => checkFile o (.ok answers)

/-- Carry out a command in at most so many steps, and log everything. -/
def perform (command : Command) (i : Invocation) (steps : Nat) :
    Except Fault (Option Completed) := do
  match command with
  | .check o =>
      return (runCheck o i.disk).map fun (result, lines) =>
        let ending := checkEnding result
        { ending, lines := lines ++ ending.lines, disk := i.disk }
  | .capture o =>
      return (← capture o i.disk i.interruption steps).map fun captured =>
        let ending := Capture.ending captured.result captured.stopRequested
        { ending, lines := captured.lines ++ ending.lines, disk := captured.disk }

/-- Run the program in at most so many steps. -/
def run (i : Invocation) (steps : Nat) : Except Fault (Option Completed) := do
  let environment := i.allVariables
  let filter := Filter.ofVariables environment
  match readCommand environment i.words with
  | .error error => return some { ending := usageEnding error, disk := i.disk }
  | .ok command =>
      return (← perform command i steps).map fun completed =>
        { completed with lines := completed.lines.filter (filter.shows ·) }

end Invocation

end BulkStream
