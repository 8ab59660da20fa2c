import BulkStream.Text.FixedPlaces

/-!
What checking a record stream finds. Every anomaly counts as one error and under its own kind, and
the first twenty are kept as diagnostics in the order met. A journal also holds the findings that
have not yet been passed on to a log.
-/
namespace BulkStream.Integrity

/-- Diagnostics kept in a report; later anomalies are only counted. -/
def diagnosticLimit : Nat := 20

inductive Anomaly
  /-- A counter that is not one stride after the previous one. -/
  | discontinuity (expected got : UInt32) (missed : Nat)
  /-- A line that does not start with the number the previous one ended in. -/
  | skip (previous start : Nat)
  /-- A line whose last number is not the successor of its first. -/
  | mismatch (start ended expected : Nat)
  /-- A line that is no record: its ordinal among all records, and its length. -/
  | malformed (ordinal length : Nat)
deriving DecidableEq, Repr

def Anomaly.message : Anomaly → String
  | .discontinuity expected got missed =>
      "expected 0x" ++ Text.hexWord expected ++ ", got 0x" ++ Text.hexWord got ++
        s!" ({missed} blocks missed)"
  | .skip previous start => s!"skipping from {previous} to {start}"
  | .mismatch start ended expected => s!"line {start} ends with {ended} instead of {expected}"
  | .malformed ordinal length => s!"malformed line {ordinal} ({length} bytes)"

structure Report where
  /-- Records examined, malformed ones included. -/
  records : Nat := 0
  errors : Nat := 0
  /-- Blocks estimated lost in forward jumps of a counter, modulo 2^64. -/
  missed : UInt64 := 0
  skips : Nat := 0
  mismatches : Nat := 0
  malformed : Nat := 0
  diagnostics : List Anomaly := []
deriving DecidableEq, Repr

namespace Report

def isClean (r : Report) : Bool := r.errors == 0

def missedBlocks (r : Report) : Nat := r.missed.toNat

def suppressed (r : Report) : Nat := r.errors - r.diagnostics.length

def countRecord (r : Report) : Report := { r with records := r.records + 1 }

def countKind (r : Report) : Anomaly → Report
  | .discontinuity _ _ missed => { r with missed := r.missed + .ofNat missed }
  | .skip _ _ => { r with skips := r.skips + 1 }
  | .mismatch _ _ _ => { r with mismatches := r.mismatches + 1 }
  | .malformed _ _ => { r with malformed := r.malformed + 1 }

def note (r : Report) (anomaly : Anomaly) : Report :=
  { r.countKind anomaly with
    errors := r.errors + 1
    diagnostics :=
      if r.diagnostics.length < diagnosticLimit then r.diagnostics ++ [anomaly]
      else r.diagnostics }

/-- The report on one line; counts that are all zero are left out. -/
def summary (r : Report) : String :=
  s!"records={r.records} errors={r.errors}" ++
    (if r.missedBlocks > 0 then s!" missed_blocks={r.missedBlocks}" else "") ++
    (if r.skips + r.mismatches + r.malformed > 0 then
      s!" skips={r.skips} mismatches={r.mismatches} malformed={r.malformed}"
    else "")

end Report

/-- An anomaly, and the records examined up to the one that shows it. -/
structure Finding where
  records : Nat
  anomaly : Anomaly
deriving DecidableEq, Repr

structure Journal where
  report : Report := {}
  /-- Findings not yet passed on, the newest first. -/
  unread : List Finding := []
deriving DecidableEq, Repr

namespace Journal

def countRecord (j : Journal) : Journal := { j with report := j.report.countRecord }

def note (j : Journal) (anomaly : Anomaly) : Journal :=
  { report := j.report.note anomaly, unread := ⟨j.report.records, anomaly⟩ :: j.unread }

def takeFindings (j : Journal) : List Finding × Journal := (j.unread.reverse, { j with unread := [] })

@[simp] theorem report_countRecord (j : Journal) :
    j.countRecord.report = j.report.countRecord := rfl

@[simp] theorem report_note (j : Journal) (a : Anomaly) :
    (j.note a).report = j.report.note a := rfl

@[simp] theorem report_takeFindings (j : Journal) : j.takeFindings.2.report = j.report := rfl

end Journal

end BulkStream.Integrity
