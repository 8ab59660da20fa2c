import BulkStream.Capture.Dump
import BulkStream.Capture.Failure
import BulkStream.Integrity.Checker
import BulkStream.Log
import BulkStream.Progress

/-!
The consumer of a capture. It writes what is received to the dump and feeds it to a checker, or fills
what is sent from the dump. A failure of the dump does not reach the session: it is kept, and from
then on every payload and every buffer is answered with a stop.
-/
namespace BulkStream.Capture

open Integrity

/-- The part of the program that speaks of captures. -/
def target : String := "fifocap::capture"

def logLine (level : Level) (message : String) : LogLine := { level, target, message }

def findingLine (f : Finding) : LogLine :=
  { level := .debug, target := "fifocap_engine::integrity", message := f.anomaly.message
    fields := [("records", toString f.records)] }

structure Sink (δ : Type) where
  use : DumpUse
  dump : δ
  checker : Option Checker := none
  failure : Option DiskError := none

namespace Sink

variable {δ : Type}

/-- Findings of a checker as log lines, and the checker without them. -/
def takeLines : Option Checker → List LogLine × Option Checker
  | none => ([], none)
  | some c =>
      let (findings, c) := c.takeFindings
      (findings.map findingLine, some c)

def payload (file : DumpFile δ) (data : Bytes) (s : Sink δ) : (Flow × List LogLine) × Sink δ :=
  if s.failure.isSome then ((.stop, []), s)
  else
    let (lines, checker) := takeLines (s.checker.map (·.feed data))
    let s := { s with checker }
    match s.use with
    | .output =>
        match file.write data s.dump with
        | (.ok (), dump) => ((.proceed, lines), { s with dump })
        | (.error error, dump) =>
            ((.stop, lines ++ [logLine .error ("Write error: " ++ error.message)]),
             { s with dump, failure := some error })
    | _ => ((.proceed, lines), s)

/-- A buffer that nothing is read for goes out as it is. -/
def fill (file : DumpFile δ) (buffer : Bytes) (s : Sink δ) :
    (Flow × Bytes × List LogLine) × Sink δ :=
  if s.failure.isSome then ((.stop, buffer, []), s)
  else
    match s.use with
    | .input =>
        match file.fill buffer.length s.dump with
        | (⟨bytes, none⟩, dump) => ((.proceed, bytes, []), { s with dump })
        | (⟨bytes, some error⟩, dump) =>
            ((.stop, bytes ++ buffer.drop bytes.length,
              [logLine .error ("File read error: " ++ error.message)]),
             { s with dump, failure := some error })
    | _ => ((.proceed, buffer, []), s)

def errors (s : Sink δ) : Nat := s.checker.elim 0 (·.report.errors)

def progressLine (snapshot : Snapshot) (s : Sink δ) : LogLine :=
  logLine .info (snapshot.line s.errors)

/-- Flush the dump and settle the check. A dump that cannot be flushed hides a failure before. -/
def finish (file : DumpFile δ) (s : Sink δ) :
    (Except Failure (Option Report) × List LogLine) × Sink δ :=
  let (flushed, dump) :=
    match s.use with
    | .output => file.flush s.dump
    | _ => (.ok (), s.dump)
  let s := { s with dump }
  match flushed, s.failure with
  | .error error, _ => ((.error (.flushDump error), []), s)
  | .ok (), some error => ((.error (.dumpBroke error), []), s)
  | .ok (), none =>
      let (lines, checker) := takeLines (s.checker.map (·.finish))
      ((.ok (checker.map (·.report)), lines), { s with checker })

end Sink

end BulkStream.Capture
