import BulkStream.Integrity.Binary
import BulkStream.Integrity.Text

/-!
A checker for a record format chosen at run time, and the replay of a dump through one.
-/
namespace BulkStream.Integrity

inductive RecordFormat
  | binary (format : BinaryFormat)
  | text
deriving DecidableEq, Repr

inductive Checker
  | binary (checker : BinaryChecker)
  | text (checker : TextChecker)
deriving DecidableEq, Repr

namespace Checker

def ofFormat : RecordFormat → Except Fault Checker
  | .binary format => return .binary (← BinaryChecker.ofFormat format)
  | .text => .ok (.text {})

def feed : Checker → Bytes → Checker
  | .binary c, bytes => .binary (c.feed bytes)
  | .text c, bytes => .text (c.feed bytes)

def finish : Checker → Checker
  | .binary c => .binary c.finish
  | .text c => .text c.finish

def report : Checker → Report
  | .binary c => c.report
  | .text c => c.report

/-- The findings not yet passed on, and the checker without them. -/
def takeFindings : Checker → List Finding × Checker
  | .binary c =>
      let (findings, journal) := c.journal.takeFindings
      (findings, .binary { c with journal })
  | .text c =>
      let (findings, journal) := c.journal.takeFindings
      (findings, .text { c with journal })

end Checker

end BulkStream.Integrity
