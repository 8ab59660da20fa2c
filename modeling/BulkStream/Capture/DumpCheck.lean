import BulkStream.Capture.Outcome
import BulkStream.Integrity.Replay

/-!
The check of a dump that was captured before.
-/
namespace BulkStream.Capture

open Integrity Settings

/-- The part of the program that speaks of checks. -/
def checkTarget : String := "fifocap::check"

/-- The answers to reading an opened file to its end. Nothing is returned for one that has no end. -/
def readAnswers? : Storage.Disk.Content → Option (List ReadAnswer)
  | .data bytes => some (blockReads bytes)
  | .directory => some [.error .isDirectory]
  | .zeros => none

/-- Check a dump through the answers to reading it, if it could be opened. -/
def checkFile (o : CheckOptions) (opened : Except DiskError (List ReadAnswer)) :
    Except Failure Report × List LogLine :=
  match opened with
  | .error error => (.error (.openDump o.file error), [])
  | .ok answers =>
      let announced : LogLine :=
        { level := .info, target := checkTarget
          message := "Checking " ++ o.file ++ " as " ++ o.encoding.title }
      let (failed, checker) := replayTo o.encoding.checker answers
      let found := announced :: (checker.takeFindings.1.map findingLine)
      match failed with
      | some error => (.error (.readDump o.file error), found)
      | none => (.ok checker.report, found ++ reportLines checker.report)

/-- The ending of a check: it fails on any anomaly. -/
def checkEnding : Except Failure Report → Ending
  | .error failure => { status := 1, notice := failure.notice }
  | .ok report =>
      if report.isClean then { status := 0 }
      else { status := 1, lines := [programLine .warn s!"{report.errors} errors found"] }

end BulkStream.Capture
