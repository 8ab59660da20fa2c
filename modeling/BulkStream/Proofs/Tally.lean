import Mathlib.Algebra.Order.Ring.Int
import BulkStream.Integrity.Report

/-!
A report is the tally of the anomalies met so far. Counting a record and noting an anomaly keep it
one, so that a checker is judged by the list of its anomalies alone.
-/
namespace BulkStream.Integrity

namespace Anomaly

def missedBlocks : Anomaly → Nat
  | .discontinuity _ _ missed => missed
  | .skip _ _ | .mismatch _ _ _ | .malformed _ _ => 0

def isSkip : Anomaly → Bool
  | .skip _ _ => true
  | .discontinuity _ _ _ | .mismatch _ _ _ | .malformed _ _ => false

def isMismatch : Anomaly → Bool
  | .mismatch _ _ _ => true
  | .discontinuity _ _ _ | .skip _ _ | .malformed _ _ => false

def isMalformed : Anomaly → Bool
  | .malformed _ _ => true
  | .discontinuity _ _ _ | .skip _ _ | .mismatch _ _ _ => false

end Anomaly

namespace Report

/-- The report on so many records that show the given anomalies in this order. -/
def tally (records : Nat) (anomalies : List Anomaly) : Report :=
  { records
    errors := anomalies.length
    missed := .ofNat (anomalies.map Anomaly.missedBlocks).sum
    skips := anomalies.countP Anomaly.isSkip
    mismatches := anomalies.countP Anomaly.isMismatch
    malformed := anomalies.countP Anomaly.isMalformed
    diagnostics := anomalies.take diagnosticLimit }

/-- Wrapped as they are added or wrapped once at the end, the missed blocks are as many. -/
theorem missedBlocks_tally (records : Nat) (anomalies : List Anomaly) :
    (tally records anomalies).missedBlocks = (anomalies.map Anomaly.missedBlocks).sum % 2 ^ 64 :=
  UInt64.toNat_ofNat'

theorem missedBlocks_tally_of_lt {records : Nat} {anomalies : List Anomaly}
    (fits : (anomalies.map Anomaly.missedBlocks).sum < 2 ^ 64) :
    (tally records anomalies).missedBlocks = (anomalies.map Anomaly.missedBlocks).sum := by
  rw [missedBlocks_tally, Nat.mod_eq_of_lt fits]

theorem countRecord_tally (records : Nat) (anomalies : List Anomaly) :
    (tally records anomalies).countRecord = tally (records + 1) anomalies := rfl

theorem take_limit_append (anomalies : List Anomaly) (anomaly : Anomaly) :
    (anomalies ++ [anomaly]).take diagnosticLimit =
      if (anomalies.take diagnosticLimit).length < diagnosticLimit then
        anomalies.take diagnosticLimit ++ [anomaly]
      else anomalies.take diagnosticLimit := by
  rw [List.length_take]
  by_cases room : anomalies.length < diagnosticLimit
  · have short : anomalies.length ≤ diagnosticLimit := Nat.le_of_lt room
    rw [Nat.min_eq_right short, if_pos room, List.take_of_length_le short]
    apply List.take_of_length_le
    rw [List.length_append, List.length_singleton]
    omega
  · have full : diagnosticLimit ≤ anomalies.length := Nat.le_of_not_lt room
    rw [Nat.min_eq_left full, if_neg (Nat.lt_irrefl _), List.take_append_of_le_length full]

theorem note_tally (records : Nat) (anomalies : List Anomaly) (anomaly : Anomaly) :
    (tally records anomalies).note anomaly = tally records (anomalies ++ [anomaly]) := by
  cases anomaly <;>
    simp [tally, note, countKind, take_limit_append, Anomaly.missedBlocks, Anomaly.isSkip,
      Anomaly.isMismatch, Anomaly.isMalformed, UInt64.ofNat_add]

end Report

namespace Journal

theorem report_foldl_note (found : List Anomaly) (j : Journal) {records : Nat}
    {anomalies : List Anomaly} (h : j.report = .tally records anomalies) :
    (found.foldl note j).report = .tally records (anomalies ++ found) := by
  induction found generalizing j anomalies with
  | nil => simpa only [List.foldl_nil, List.append_nil] using h
  | cons anomaly found ih =>
      have step : (j.note anomaly).report = .tally records (anomalies ++ [anomaly]) := by
        rw [report_note, h, Report.note_tally]
      simpa only [List.foldl_cons, List.append_assoc, List.singleton_append] using ih _ step

end Journal

end BulkStream.Integrity
