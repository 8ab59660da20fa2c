import Mathlib.Data.List.Infix
import BulkStream.Proofs.CheckerHistories

/-!
What the reports of a checker have in common. A report is the tally of the records examined so far,
and no call takes a record back; so its counts hang together whatever was called, and each call only
adds to them.
-/
namespace BulkStream.Integrity

/-- Every count of records or anomalies is as large or larger, and diagnostics are only appended. -/
structure Report.Grows (r later : Report) : Prop where
  records : r.records ≤ later.records
  errors : r.errors ≤ later.errors
  skips : r.skips ≤ later.skips
  mismatches : r.mismatches ≤ later.mismatches
  malformed : r.malformed ≤ later.malformed
  diagnostics : r.diagnostics <+: later.diagnostics

theorem Report.grows_tally {records later : Nat} {found more : List Anomaly} (h : records ≤ later)
    (front : found <+: more) : (tally records found).Grows (tally later more) := by
  obtain ⟨rest, rfl⟩ := front
  refine ⟨h, ?_, ?_, ?_, ?_, ?_⟩
  · simp [tally]
  · simp [tally]
  · simp [tally]
  · simp [tally]
  · exact List.IsPrefix.take (List.prefix_append found rest) diagnosticLimit

theorem neighbours_front {α : Type} (front back : List α) :
    neighbours front <+: neighbours (front ++ back) := by
  cases back with
  | nil => simp
  | cons a back =>
      rw [neighbours_append, neighbours_concat, List.append_assoc]
      exact List.prefix_append _ _

theorem anomalies_front (pattern : RecordFormat) (records more : List Bytes) :
    anomalies pattern records <+: anomalies pattern (records ++ more) := by
  cases pattern with
  | binary f =>
      simp only [anomalies, List.filterMap_append]
      exact (neighbours_front _ _).filterMap _
  | text =>
      simp only [anomalies, judgeLines_append]
      exact List.prefix_append _ _

/-- Until they pass 64 bits, missed blocks only get more. -/
theorem Report.missedBlocks_tally_le {records later : Nat} {found more : List Anomaly}
    (front : found <+: more) (fits : (more.map Anomaly.missedBlocks).sum < 2 ^ 64) :
    (tally records found).missedBlocks ≤ (tally later more).missedBlocks := by
  obtain ⟨rest, rfl⟩ := front
  rw [missedBlocks_tally_of_lt fits, missedBlocks_tally, List.map_append, List.sum_append]
  exact (Nat.mod_le _ _).trans (Nat.le_add_right _ _)

theorem wholeRecords_front {pattern : RecordFormat} (valid : pattern.IsValid) (a b : Bytes) :
    wholeRecords pattern a <+: wholeRecords pattern (a ++ b) := by
  rw [wholeRecords_append valid]
  exact List.prefix_append _ _

/-- No call takes a record back. -/
theorem examined_front {pattern : RecordFormat} (valid : pattern.IsValid) (calls : List Call)
    (call : Call) : examined pattern calls <+: examined pattern (calls ++ [call]) := by
  by_cases finished : .finish ∈ calls
  · obtain ⟨before, rest, rfl, going⟩ := List.eq_append_cons_of_mem finished
    obtain ⟨opened, followed⟩ := opening_append_finish going rest
    obtain ⟨opened', followed'⟩ := opening_append_finish going (rest ++ [call])
    have more : fed (rest ++ [call]) = fed rest ++ fed [call] := List.flatMap_append
    have front := wholeRecords_front valid (fed rest) (fed [call])
    rw [← more] at front
    simpa [examined, opened, followed, opened', followed'] using front
  · obtain ⟨opened, followed⟩ := opening_of_notMem finished
    have nothing := wholeRecords_part (isPart_nil valid)
    cases call with
    | feed chunk =>
        have going : .finish ∉ calls ++ [.feed chunk] := by simpa using finished
        obtain ⟨opened', followed'⟩ := opening_of_notMem going
        have more : fed (calls ++ [.feed chunk]) = fed calls ++ chunk := by simp [fed]
        have front := wholeRecords_front valid (fed calls) chunk
        rw [← more] at front
        simpa [examined, opened, followed, opened', followed', finished, nothing] using front
    | finish =>
        obtain ⟨opened', followed'⟩ := opening_append_finish finished []
        simp [examined, opened, followed, opened', followed', finished, nothing]

/-- Blocks lost between the records that calls have a checker examine. -/
def missed (pattern : RecordFormat) (calls : List Call) : Nat :=
  ((anomalies pattern (examined pattern calls)).map Anomaly.missedBlocks).sum

/-- Anomalies of lines are each of one of three kinds, and lose no blocks. -/
theorem kinds_add_up {found : List Anomaly} (h : ∀ a ∈ found, a.OfLine) :
    found.length = found.countP Anomaly.isSkip + found.countP Anomaly.isMismatch +
        found.countP Anomaly.isMalformed ∧
      (found.map Anomaly.missedBlocks).sum = 0 := by
  induction found with
  | nil => exact ⟨rfl, rfl⟩
  | cons a found ih =>
      obtain ⟨total, none_lost⟩ := ih fun b member => h b (.tail _ member)
      have kind := h a (.head _)
      simp only [List.length_cons, List.countP_cons, List.map_cons, List.sum_cons, none_lost, total]
      cases a <;>
        simp [Anomaly.OfLine, Anomaly.isSkip, Anomaly.isMismatch, Anomaly.isMalformed,
          Anomaly.missedBlocks] at kind ⊢ <;>
        omega

/-- How the counts of a report on records of the format hang together. -/
def Report.AddsUp (r : Report) : RecordFormat → Prop
  | .binary _ => r.skips = 0 ∧ r.mismatches = 0 ∧ r.malformed = 0 ∧ r.errors < max 1 r.records
  | .text => r.errors = r.skips + r.mismatches + r.malformed ∧ r.missedBlocks = 0

theorem addsUp_tally (pattern : RecordFormat) (records : List Bytes) :
    (Report.tally records.length (anomalies pattern records)).AddsUp pattern := by
  cases pattern with
  | binary f =>
      have pairs := List.length_filterMap_le (judgePair f.stride)
        (neighbours (records.filterMap leadingWord?))
      have counters := List.length_filterMap_le leadingWord? records
      refine ⟨?_, ?_, ?_, ?_⟩
      · exact countP_judged f.stride _ fun _ _ _ => rfl
      · exact countP_judged f.stride _ fun _ _ _ => rfl
      · exact countP_judged f.stride _ fun _ _ _ => rfl
      · simp only [length_neighbours] at pairs
        simp only [Report.tally, anomalies]
        omega
  | text =>
      obtain ⟨total, none_lost⟩ := kinds_add_up (judgeLines_ofLine none 1 records)
      refine ⟨total, ?_⟩
      simp only [Report.missedBlocks_tally, anomalies, none_lost, Nat.zero_mod]

theorem missedBlocks_anomalies_lt (pattern : RecordFormat) {records : List Bytes}
    (few : records.length ≤ 2 ^ 33) :
    ((anomalies pattern records).map Anomaly.missedBlocks).sum < 2 ^ 64 := by
  cases pattern with
  | binary f =>
      have counters := List.length_filterMap_le leadingWord? records
      exact missedBlocks_judged_lt f.stride (counters.trans few)
  | text =>
      obtain ⟨-, none_lost⟩ := kinds_add_up (judgeLines_ofLine none 1 records)
      simp only [anomalies, none_lost]
      decide

/-- What a new checker reports can be read off the calls. -/
theorem report_after {pattern : RecordFormat} {fresh : Checker}
    (made : Checker.ofFormat pattern = .ok fresh) (calls : List Call) :
    (fresh.after calls).report =
      .tally (examined pattern calls).length (anomalies pattern (examined pattern calls)) :=
  (Checker.Examined.history made calls).reported

theorem report_grows {pattern : RecordFormat} {fresh : Checker}
    (made : Checker.ofFormat pattern = .ok fresh) (calls : List Call) (call : Call) :
    let report := (fresh.after calls).report
    let later := ((fresh.after calls).perform call).report
    report.Grows later ∧
      (missed pattern (calls ++ [call]) < 2 ^ 64 → report.missedBlocks ≤ later.missedBlocks) := by
  intro report later
  obtain ⟨valid, -⟩ := Checker.Examined.start made
  have onward : (fresh.after calls).perform call = fresh.after (calls ++ [call]) := by
    simp [Checker.after]
  have now : report = _ := report_after made calls
  have next : later = _ := (congrArg Checker.report onward).trans (report_after made _)
  have front := examined_front valid calls call
  have more : anomalies pattern (examined pattern calls) <+:
      anomalies pattern (examined pattern (calls ++ [call])) := by
    obtain ⟨records, split⟩ := front
    rw [← split]
    exact anomalies_front pattern _ records
  rw [now, next]
  exact ⟨Report.grows_tally front.length_le more, Report.missedBlocks_tally_le more⟩

/-- However a checker is called, its counts hang together at any time. The diagnostics are the first
twenty anomalies of the records examined, in order. Each call only adds to the report, `finish` at
most one record; and once a checker has been finished, to finish it again changes nothing. Missed
blocks are counted modulo 2^64, which it takes more than 2^33 records to see. -/
theorem reports_consistent {pattern : RecordFormat} {fresh : Checker}
    (made : Checker.ofFormat pattern = .ok fresh) (calls : List Call) :
    let checker := fresh.after calls
    let report := checker.report
    let found := anomalies pattern (examined pattern calls)
    report.AddsUp pattern ∧
      report.records = (examined pattern calls).length ∧ report.errors = found.length ∧
      report.missedBlocks = missed pattern calls % 2 ^ 64 ∧
      (report.records ≤ 2 ^ 33 → missed pattern calls < 2 ^ 64) ∧
      report.diagnostics = found.take 20 ∧ report.diagnostics.length = min report.errors 20 ∧
      report.diagnostics.length + report.suppressed = report.errors ∧
      (∀ call, report.Grows (checker.perform call).report ∧
        (missed pattern (calls ++ [call]) < 2 ^ 64 →
          report.missedBlocks ≤ (checker.perform call).report.missedBlocks)) ∧
      checker.finish.report.records ≤ report.records + 1 ∧
      (.finish ∈ calls → checker.finish = checker) := by
  intro checker report found
  obtain ⟨valid, -⟩ := Checker.Examined.start made
  have history : Checker.Examined pattern checker _ _ _ := Checker.Examined.history made calls
  have reported : report = .tally (examined pattern calls).length found := report_after made calls
  have kept : report.diagnostics.length = min report.errors 20 := by
    rw [reported]
    simp [Report.tally, diagnosticLimit, Nat.min_comm]
  refine ⟨?_, ?_, ?_, ?_, ?_, ?_, kept, ?_, report_grows made calls, ?_, ?_⟩
  · rw [reported]
    exact addsUp_tally pattern _
  · rw [reported]
    rfl
  · rw [reported]
    rfl
  · rw [reported]
    exact Report.missedBlocks_tally _ _
  · rw [reported]
    exact missedBlocks_anomalies_lt pattern
  · rw [reported]
    rfl
  · rw [Report.suppressed]
    omega
  · obtain ⟨more, _, _, ended, few⟩ := history.perform valid .finish
    change (checker.perform .finish).report.records ≤ report.records + 1
    rw [reported, ended.reported]
    simpa [Report.tally] using few rfl
  · intro finished
    have ended := history
    rw [decide_eq_true finished] at ended
    exact ended.finish_ended

/-- An unended line, settled by the first `finish`, and one that comes after it: neither is a
record, and what the second one leaves open is not settled. -/
theorem resumed_reports_consistent :
    let calls : List Call := [.feed [0x78], .finish, .feed [0x79, newline, 0x7a], .finish]
    let checker := (Checker.text {}).after calls
    examined .text calls = [[0x78], [0x79]] ∧ checker.report.errors = 2 ∧
      checker.report.diagnostics = [.malformed 1 1, .malformed 2 1] ∧ checker.finish = checker := by
  intro calls checker
  have made : Checker.ofFormat .text = .ok (.text {}) := rfl
  obtain ⟨-, -, errors, -, -, diagnostics, -, -, -, -, ended⟩ := reports_consistent made calls
  have read : examined .text calls = [[0x78], [0x79]] := by decide
  rw [read] at errors diagnostics
  exact ⟨read, errors, diagnostics, ended (by decide)⟩

end BulkStream.Integrity
