import BulkStream.Proofs.RecordNumbers
import BulkStream.Proofs.Replays
import BulkStream.Proofs.TextLines

/-!
The checker against the source. Whole records that a source emits, in chunks of any size, show one
error for each record that was dropped between two of them, and nothing else, however far their
numbers run past the points where counters and line numbers wrap.
-/
namespace BulkStream

open Integrity Peripheral

variable {pattern : RecordFormat} {dropEvery : Option Nat} {format : BinaryFormat}

namespace Integrity

theorem Checker.foldl_feed {checker : Checker} (made : ofFormat pattern = .ok checker)
    (chunks : List Bytes) : chunks.foldl feed checker = checker.feed chunks.flatten := by
  have onward (bytes : Bytes) :
      chunks.foldl feed (checker.feed bytes) = checker.feed (bytes ++ chunks.flatten) := by
    induction chunks generalizing bytes with
    | nil => simp
    | cons chunk chunks ih => simp [feed_feed made, ih]
  simpa [feed_nil made] using onward []

theorem BinaryChecker.report_feed {c : BinaryChecker} (made : ofFormat format = .ok c)
    (bytes : Bytes) : (c.feed bytes).finish.report = binaryReport format bytes := by
  have alone := report_chunks (ofFormat_valid made) [bytes]
  obtain ⟨rfl, -⟩ := ofFormat_ok made
  rwa [List.flatten_singleton] at alone

theorem TextChecker.report_feed (bytes : Bytes) :
    (({} : TextChecker).feed bytes).finish.report = textReport bytes := by
  have alone := report_chunks [bytes]
  rwa [List.flatten_singleton] at alone

theorem neighbours_range' {α : Type} (f : Nat → α) (i count : Nat) :
    neighbours ((List.range' i (count + 1)).map f) =
      (List.range' i count).map fun j => (f j, f (j + 1)) := by
  induction count generalizing i with
  | zero => rfl
  | succ count ih =>
      have onward := ih (i + 1)
      simp only [neighbours, List.range'_succ, List.map_cons, List.tail_cons, List.zip_cons_cons]
        at onward ⊢
      rw [onward]

end Integrity

namespace Peripheral

/-! Binary records. -/

/-- Counter of the record that is emitted as the `i`-th. -/
def counterAt (format : BinaryFormat) (dropEvery : Option Nat) (i : Nat) : UInt32 :=
  .ofNat (number dropEvery i) * format.stride

theorem leadingWord?_emitted (room : counterSize ≤ format.recordSize) (i : Nat) :
    leadingWord? (emitted (.binary format) dropEvery i) = some (counterAt format dropEvery i) := by
  have whole : (wordBytes (counterAt format dropEvery i)).take format.recordSize =
      wordBytes (counterAt format dropEvery i) := List.take_of_length_le room
  have same : emitted (.binary format) dropEvery i = wordBytes (counterAt format dropEvery i) ++
      List.replicate (format.recordSize - counterSize) (UInt8.ofNat (number dropEvery i)) :=
    congrArg (· ++ _) whole
  rw [same, leadingWord?_wordBytes_append]

theorem counters_emitted (room : counterSize ≤ format.recordSize) (indices : List Nat) :
    counters format (indices.map (emitted (.binary format) dropEvery)).flatten =
      indices.map (counterAt format dropEvery) :=
  counters_flatten room (length_emitted _ _) (leadingWord?_emitted room) indices

/-- What the checker makes of a lapse: a jump of one stride too many, too short for a block to be
missing. -/
def gap (format : BinaryFormat) (dropEvery : Option Nat) (i : Nat) : Anomaly :=
  .discontinuity (counterAt format dropEvery i + format.stride)
    (counterAt format dropEvery (i + 1)) 0

theorem judgePair_regular {i : Nat} (h : ¬ Lapse dropEvery i) :
    judgePair format.stride (counterAt format dropEvery i, counterAt format dropEvery (i + 1)) =
      none := by
  have next : counterAt format dropEvery (i + 1) =
      counterAt format dropEvery i + format.stride := by
    have regular : number dropEvery (i + 1) = number dropEvery i + 1 := not_not.mp h
    rw [counterAt, regular, UInt32.ofNat_add, UInt32.add_mul, counterAt]
    simp
  rw [next, judgePair_add]

theorem judgePair_lapse (advances : 0 < format.stride) {i : Nat} (h : Lapse dropEvery i) :
    judgePair format.stride (counterAt format dropEvery i, counterAt format dropEvery (i + 1)) =
      some (gap format dropEvery i) := by
  have next : counterAt format dropEvery (i + 1) =
      counterAt format dropEvery i + format.stride + format.stride := by
    rw [counterAt, number_of_lapse h, UInt32.ofNat_add, UInt32.add_mul, counterAt]
    have two : UInt32.ofNat 2 * format.stride = format.stride + format.stride := by
      rw [show UInt32.ofNat 2 = 1 + 1 from rfl, UInt32.add_mul, UInt32.one_mul]
    rw [two, UInt32.add_assoc]
  have apart : counterAt format dropEvery (i + 1) ≠
      counterAt format dropEvery i + format.stride := by
    rw [next]
    intro same
    have none : format.stride = 0 := by simpa using same
    simp [none] at advances
  have missed : missedBlocks format.stride (counterAt format dropEvery i + format.stride)
      (counterAt format dropEvery (i + 1)) = 0 := by
    have one : (format.stride / format.stride).toNat = 1 := by
      have positive : 0 < format.stride.toNat := UInt32.lt_iff_toNat_lt.mp advances
      rw [UInt32.toNat_div, Nat.div_self positive]
    rw [missedBlocks, next, UInt32.add_comm _ format.stride, UInt32.add_sub_cancel, one]
    simp
  rw [← discontinuity?_eq_judgePair, discontinuity?, if_neg apart, missed, gap]

theorem judged_counters (advances : 0 < format.stride) (indices : List Nat) :
    (indices.map fun i => (counterAt format dropEvery i, counterAt format dropEvery (i + 1))).filterMap
        (judgePair format.stride) =
      (indices.filter (Lapse dropEvery ·)).map (gap format dropEvery) := by
  induction indices with
  | nil => rfl
  | cons i indices ih =>
      by_cases lapse : Lapse dropEvery i
      · simp [judgePair_lapse advances lapse, lapse, ih]
      · simp [judgePair_regular lapse, lapse, ih]

/-- Whole binary records show a gap for each lapse. -/
theorem binaryReport_emission (valid : format.IsValid) (count : Nat) :
    binaryReport format (emission (.binary format) dropEvery (count + 1)) =
      .tally (count + 1) ((lapses dropEvery 0 count).map (gap format dropEvery)) := by
  rw [binaryReport, emission_eq_flatten, counters_emitted valid.1, neighbours_range',
    judged_counters valid.2, lapses]
  simp

/-! Text records. -/

/-- The line that is emitted as the `i`-th, without its newline. -/
def lineAt (dropEvery : Option Nat) (i : Nat) : Bytes :=
  lineBody (number dropEvery i % lineModulus)

/-- What the checker makes of a lapse between two lines. -/
def skipped (dropEvery : Option Nat) (i : Nat) : Anomaly :=
  .skip (nextNumber (number dropEvery i % lineModulus)) (number dropEvery (i + 1) % lineModulus)

theorem lines_emitted (indices : List Nat) :
    lines (indices.map (emitted .text dropEvery)).flatten = indices.map (lineAt dropEvery) := by
  induction indices with
  | nil => exact lines_of_not_mem List.not_mem_nil
  | cons i indices ih =>
      have first : emitted .text dropEvery i = lineAt dropEvery i ++ [newline] := by
        simp [emitted, record, Record.toBytes, textLine_eq, lineAt]
      have closed : newline ∉ lineAt dropEvery i := (visible_lineBody _).newline_notMem
      simp [first, lines_cons _ closed, ih]

theorem judgeLine_lineAt (expected : Option Nat) (ordinal i : Nat) :
    judgeLine expected ordinal (lineAt dropEvery i) =
      ((match expected with
        | none => []
        | some due => if number dropEvery i % lineModulus = due then []
            else [.skip due (number dropEvery i % lineModulus)]),
      some (nextNumber (number dropEvery i % lineModulus))) := by
  have small : number dropEvery i % lineModulus < lineModulus := Nat.mod_lt _ (by decide)
  have short : ¬ 4096 < (lineAt dropEvery i).length := by simp [lineAt, length_lineBody]
  rw [judgeLine, if_neg short, lineAt, (visible_lineBody _).stripReturn_eq,
    ofBytes?_lineBody small]
  cases expected <;> simp [nextNumber, lineModulus]

theorem judgeLine_next (ordinal i : Nat) :
    judgeLine (some (nextNumber (number dropEvery i % lineModulus))) ordinal
        (lineAt dropEvery (i + 1)) =
      (if Lapse dropEvery i then [skipped dropEvery i] else [],
        some (nextNumber (number dropEvery (i + 1) % lineModulus))) := by
  rw [judgeLine_lineAt]
  by_cases lapse : Lapse dropEvery i
  · have apart : number dropEvery (i + 1) % lineModulus ≠
        nextNumber (number dropEvery i % lineModulus) := by
      rw [number_of_lapse lapse, nextNumber, lineModulus]
      omega
    simp [lapse, apart, skipped]
  · have due : number dropEvery (i + 1) % lineModulus =
        nextNumber (number dropEvery i % lineModulus) := by
      rw [show number dropEvery (i + 1) = number dropEvery i + 1 from not_not.mp lapse, nextNumber,
        lineModulus]
      omega
    simp [lapse, due]

theorem judgeLines_next (ordinal i count : Nat) :
    judgeLines (some (nextNumber (number dropEvery i % lineModulus))) ordinal
        ((List.range' (i + 1) count).map (lineAt dropEvery)) =
      (lapses dropEvery i count).map (skipped dropEvery) := by
  induction count generalizing i ordinal with
  | zero => rfl
  | succ count ih =>
      rw [lapses, List.range'_succ, List.range'_succ, List.map_cons, judgeLines, judgeLine_next]
      dsimp only
      rw [ih, lapses]
      by_cases lapse : Lapse dropEvery i <;> simp [lapse]

/-- Whole lines show a skip for each lapse. -/
theorem textReport_emission (count : Nat) :
    textReport (emission .text dropEvery (count + 1)) =
      .tally (count + 1) ((lapses dropEvery 0 count).map (skipped dropEvery)) := by
  rw [textReport, emission_eq_flatten, lines_emitted, List.range'_succ, List.map_cons, judgeLines,
    judgeLine_lineAt]
  dsimp only
  rw [judgeLines_next]
  simp

/-! Records of either format. -/

def trace : RecordFormat → Option Nat → Nat → Anomaly
  | .binary format, dropEvery, i => gap format dropEvery i
  | .text, dropEvery, i => skipped dropEvery i

theorem report_emission {checker : Checker} (made : Checker.ofFormat pattern = .ok checker)
    (count : Nat) : (checker.feed (emission pattern dropEvery (count + 1))).finish.report =
      .tally (count + 1) ((lapses dropEvery 0 count).map (trace pattern dropEvery)) := by
  cases pattern with
  | text =>
      cases made
      exact (TextChecker.report_feed _).trans (textReport_emission count)
  | binary format =>
      cases new : BinaryChecker.ofFormat format with
      | error fault => simp [Checker.ofFormat, new] at made
      | ok c =>
          obtain rfl : .binary c = checker := by simpa [Checker.ofFormat, new] using made
          exact (BinaryChecker.report_feed new _).trans
            (binaryReport_emission (BinaryChecker.ofFormat_valid new) count)

theorem recordSize_pos {checker : Checker} (made : Checker.ofFormat pattern = .ok checker) :
    0 < recordSize pattern := by
  cases pattern with
  | text => decide
  | binary format =>
      cases new : BinaryChecker.ofFormat format with
      | error fault => simp [Checker.ofFormat, new] at made
      | ok c => exact (BinaryChecker.ofFormat_valid new).positive

/-- However whole records of a source are cut into chunks, the checker finds as many errors as
records were dropped between the first and the last of them, and nothing else. -/
theorem dropped_records_detected {checker : Checker}
    (made : Checker.ofFormat pattern = .ok checker) (sparse : ∀ n ∈ dropEvery, 2 ≤ n)
    {count : Nat} (some_records : 1 ≤ count) (chunks : List Bytes)
    (whole : chunks.flatten =
      ((RecordSource.start pattern dropEvery).read (count * recordSize pattern)).1) :
    let report := (chunks.foldl Checker.feed checker).finish.report
    number dropEvery (count - 1) = count - 1 + dropped dropEvery count ∧
      report.records = count ∧ report.errors = dropped dropEvery count ∧
      report.missedBlocks = 0 ∧ report.mismatches = 0 ∧ report.malformed = 0 ∧
      report.skips = if pattern = .text then dropped dropEvery count else 0 := by
  intro report
  obtain ⟨last, rfl⟩ : ∃ last, count = last + 1 := ⟨count - 1, by omega⟩
  have lapsed := length_lapses sparse (last + 1)
  rw [Nat.add_sub_cancel] at lapsed
  have reported : report =
      .tally (last + 1) ((lapses dropEvery 0 last).map (trace pattern dropEvery)) := by
    change (chunks.foldl Checker.feed checker).finish.report = _
    rw [Checker.foldl_feed made, whole, read_emission (recordSize_pos made), report_emission made]
  rw [reported]
  refine ⟨number_eq_add_dropped sparse (last + 1), rfl, ?_, ?_, ?_⟩
  · simp [Report.tally, lapsed]
  · rw [Report.missedBlocks_tally]
    cases pattern <;> simp [Function.comp_def, trace, gap, skipped, Anomaly.missedBlocks]
  · cases pattern <;>
      simp [Report.tally, Function.comp_def, trace, gap, skipped, Anomaly.isSkip,
        Anomaly.isMismatch, Anomaly.isMalformed, lapsed]

/-- Four lines of a source that drops every third one. -/
def fourLines : Bytes := ((RecordSource.start .text (some 3)).read (4 * recordSize .text)).1

/-- The report on them, with a cut in the first. -/
def fourLinesReport : Report :=
  ([fourLines.take 7, fourLines.drop 7].foldl Checker.feed (.text {})).finish.report

theorem third_line_detected :
    fourLinesReport.records = 4 ∧ fourLinesReport.errors = 1 ∧ fourLinesReport.skips = 1 := by
  have made : Checker.ofFormat .text = .ok (.text {}) := rfl
  have sparse : ∀ n ∈ some 3, 2 ≤ n := by simp
  have whole : [fourLines.take 7, fourLines.drop 7].flatten = fourLines := by simp
  obtain ⟨-, records, errors, -, -, -, skips⟩ :=
    dropped_records_detected made sparse (by decide : 1 ≤ 4) _ whole
  exact ⟨records, errors, skips⟩

end Peripheral

end BulkStream
