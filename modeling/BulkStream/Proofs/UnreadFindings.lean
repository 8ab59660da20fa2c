import BulkStream.Integrity.Checker
import BulkStream.Proofs.TextReference

/-!
Findings passed on in between. A checker never looks at the findings that it keeps for a log, so to
take them away and to put them back later is the same as to leave them, whatever is fed meanwhile.
-/
namespace BulkStream.Integrity

namespace Journal

/-- The journal with findings put back that were taken before its own. -/
def recalling (older : List Finding) (j : Journal) : Journal :=
  { j with unread := j.unread ++ older }

theorem foldl_note_recalling (older : List Finding) (found : List Anomaly) (j : Journal) :
    found.foldl note (j.recalling older) = (found.foldl note j).recalling older :=
  List.foldl_hom (recalling older) fun _ _ => rfl

end Journal

namespace BinaryChecker

def recalling (older : List Finding) (c : BinaryChecker) : BinaryChecker :=
  { c with journal := c.journal.recalling older }

variable (older : List Finding) (c : BinaryChecker)

theorem examineRecord_recalling (record : Bytes) :
    (c.recalling older).examineRecord record = (c.examineRecord record).recalling older := by
  simp only [examineRecord]
  cases leadingWord? record with
  | none => rfl
  | some counter =>
      simp only [examine, recalling]
      cases discontinuity? c.format.stride c.previous counter <;> rfl

theorem settle_recalling : (c.recalling older).settle = c.settle.recalling older := by
  change { (c.recalling older).examineRecord c.held.toList with held := #[] } = _
  rw [examineRecord_recalling]
  rfl

theorem topUp_recalling (chunk : Bytes) :
    (c.recalling older).topUp chunk = ((c.topUp chunk).1.recalling older, (c.topUp chunk).2) := by
  have keep (bytes : Bytes) : (c.recalling older).keep bytes = (c.keep bytes).recalling older := rfl
  have held (c : BinaryChecker) : (c.recalling older).held = c.held := rfl
  have format (c : BinaryChecker) : (c.recalling older).format = c.format := rfl
  simp only [topUp, keep, held, format, settle_recalling]
  split
  · rfl
  · split <;> rfl

theorem scan_recalling (block : Bytes) :
    (c.recalling older).scan block = (c.scan block).recalling older := by
  rw [scan, examineRecord_recalling]
  exact (apply_ite (recalling older) (block.length < c.format.recordSize) (c.keep block)
    (c.examineRecord block)).symm

theorem feed_recalling (chunk : Bytes) :
    (c.recalling older).feed chunk = (c.feed chunk).recalling older := by
  simp only [feed, topUp_recalling]
  exact List.foldl_hom (recalling older) (scan_recalling older)

theorem finish_recalling : (c.recalling older).finish = c.finish.recalling older := by
  rw [finish, settle_recalling]
  exact (apply_ite (recalling older) (c.finished = true) c { c.settle with finished := true }).symm

end BinaryChecker

namespace TextChecker

def recalling (older : List Finding) (c : TextChecker) : TextChecker :=
  { c with journal := c.journal.recalling older }

variable (older : List Finding) (c : TextChecker)

theorem examine_recalling (line : Bytes) :
    (c.recalling older).examine line = (c.examine line).recalling older := by
  simp only [examine]
  cases Line.ofBytes? (stripReturn line) with
  | none => rfl
  | some record =>
      have noted := c.journal.countRecord.foldl_note_recalling older
        (lineAnomalies c.previousEnd record)
      exact congrArg (fun journal => ({ c with previousEnd := some record.ended, journal } :
        TextChecker)) noted

theorem endLine_recalling (bytes : Bytes) :
    (c.recalling older).endLine bytes = (c.endLine bytes).recalling older := by
  have examined := examine_recalling older { c with line := {} } (c.line.held.toList ++ bytes)
  rw [endLine_eq, endLine_eq, apply_ite (recalling older), ← examined]
  rfl

theorem feed_recalling (chunk : Bytes) :
    (c.recalling older).feed chunk = (c.feed chunk).recalling older := by
  induction chunk using line_induction generalizing c with
  | last chunk uncut =>
      rw [feed_open _ uncut, feed_open _ uncut]
      rfl
  | line head tail closed ih =>
      rw [feed_line _ tail closed, feed_line _ tail closed, endLine_recalling, ih]

theorem finish_recalling : (c.recalling older).finish = c.finish.recalling older := by
  have examined := examine_recalling older { c with line := {}, finished := true }
    c.line.held.toList
  simp only [finish, apply_ite (recalling older), ← examined]
  rfl

end TextChecker

namespace Checker

/-- The checker with findings put back that were taken before its own. -/
def recalling (older : List Finding) : Checker → Checker
  | .binary c => .binary (c.recalling older)
  | .text c => .text (c.recalling older)

theorem feed_recalling (older : List Finding) (c : Checker) (bytes : Bytes) :
    (c.recalling older).feed bytes = (c.feed bytes).recalling older := by
  cases c with
  | binary c => exact congrArg binary (c.feed_recalling older bytes)
  | text c => exact congrArg text (c.feed_recalling older bytes)

theorem finish_recalling (older : List Finding) (c : Checker) :
    (c.recalling older).finish = c.finish.recalling older := by
  cases c with
  | binary c => exact congrArg binary (c.finish_recalling older)
  | text c => exact congrArg text (c.finish_recalling older)

theorem report_recalling (older : List Finding) (c : Checker) :
    (c.recalling older).report = c.report := by
  cases c <;> rfl

theorem report_takeFindings (c : Checker) : c.takeFindings.2.report = c.report := by
  cases c <;> rfl

theorem recalling_recalling (older newer : List Finding) (c : Checker) :
    (c.recalling newer).recalling older = c.recalling (newer ++ older) := by
  cases c <;> simp [recalling, BinaryChecker.recalling, TextChecker.recalling, Journal.recalling]

/-- Findings that were taken can be put back. -/
theorem takeFindings_recalling (c : Checker) :
    c.takeFindings.2.recalling c.takeFindings.1.reverse = c := by
  cases c <;> simp [takeFindings, Journal.takeFindings, recalling, BinaryChecker.recalling,
    TextChecker.recalling, Journal.recalling]

end Checker

end BulkStream.Integrity
