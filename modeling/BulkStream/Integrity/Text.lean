import BulkStream.Integrity.Line
import BulkStream.Integrity.Report

/-!
Checking of text records, one a line. A line ends with the successor of the number it starts with,
and starts with the number the line before ended with. A stream comes in chunks that may cut lines
anywhere; a line that grows past 4096 bytes is no longer held, so memory stays bounded.
-/
namespace BulkStream.Integrity

def newline : UInt8 := 0x0a

/-- Longest line that is read as a record; the newline does not count. -/
def lineLimit : Nat := 4096

/-- The line in progress. It holds its bytes only while they are within the limit. -/
structure OpenLine where
  length : Nat := 0
  held : Array UInt8 := #[]
deriving DecidableEq, Repr

namespace OpenLine

def extend (line : OpenLine) (bytes : Bytes) : OpenLine :=
  let length := line.length + bytes.length
  { length, held := if length ≤ lineLimit then line.held ++ bytes else #[] }

end OpenLine

/-- A line without one carriage return at its end. -/
def stripReturn (line : Bytes) : Bytes :=
  if line.getLast? = some 0x0d then line.dropLast else line

/-- What a line shows against the end of the one before it, in the order noted. -/
def lineAnomalies (previousEnd : Option Nat) (line : Line) : List Anomaly :=
  (match previousEnd with
    | some p => if line.start = p then [] else [.skip p line.start]
    | none => []) ++
  (if line.ended = nextNumber line.start then []
    else [.mismatch line.start line.ended (nextNumber line.start)])

structure TextChecker where
  /-- Number the line before ended with, unless it was malformed. -/
  previousEnd : Option Nat := none
  line : OpenLine := {}
  journal : Journal := {}
  finished : Bool := false
deriving DecidableEq, Repr

namespace TextChecker

/-- Account for a line that is no record. The next line cannot be judged against it. -/
def reject (c : TextChecker) (length : Nat) : TextChecker :=
  let journal := c.journal.countRecord
  { c with
    previousEnd := none
    journal := journal.note (.malformed journal.report.records length) }

def examine (c : TextChecker) (line : Bytes) : TextChecker :=
  let line := stripReturn line
  match Line.ofBytes? line with
  | none => c.reject line.length
  | some record =>
      { c with
        previousEnd := some record.ended
        journal := (lineAnomalies c.previousEnd record).foldl Journal.note c.journal.countRecord }

/-- Account for the line in progress, which ends in the given bytes, and start a new one. A line that
lies in one chunk is not copied. -/
def endLine (c : TextChecker) (bytes : Bytes) : TextChecker :=
  let line := c.line
  let length := line.length + bytes.length
  let c := { c with line := {} }
  if lineLimit < length then c.reject length
  else if line.held.isEmpty then c.examine bytes
  else c.examine (line.held.toList ++ bytes)

/-- Account for the lines that end in a chunk. What follows the last newline begins or goes on with a
line. -/
def feed (c : TextChecker) (chunk : Bytes) : TextChecker :=
  match cut : chunk.dropWhile (· ≠ newline) with
  | [] => { c with line := c.line.extend chunk }
  | _ :: rest =>
      have : rest.length < chunk.length := by
        have le := (chunk.dropWhile_sublist (· ≠ newline)).length_le
        rwa [cut] at le
      feed (c.endLine (chunk.takeWhile (· ≠ newline))) rest
termination_by chunk.length

/-- Account for a last line without a newline; only the first call does. -/
def finish (c : TextChecker) : TextChecker :=
  if c.finished then c
  else
    let line := c.line
    let c := { c with line := {}, finished := true }
    if lineLimit < line.length then c.reject line.length
    else if line.held.isEmpty then c
    else c.examine line.held.toList

def report (c : TextChecker) : Report := c.journal.report

end TextChecker

end BulkStream.Integrity
