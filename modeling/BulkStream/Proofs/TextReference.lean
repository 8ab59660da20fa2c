import Mathlib.Data.List.TakeWhile
import BulkStream.Integrity.Text
import BulkStream.Proofs.Tally

/-!
What the text checker computes. A stream is cut into lines, and each line is judged by itself and by
the number the line before it ended with. The checker gives the report of exactly that, however the
stream was cut into chunks: chunks that follow each other do the same as one, and one is settled
line by line.
-/
namespace BulkStream.Integrity

/-- The lines of a stream. What follows the last newline is a line of its own unless it is empty. -/
def lines (bytes : Bytes) : List Bytes :=
  let pieces := bytes.splitOn newline
  if pieces.getLast? = some [] then pieces.dropLast else pieces

/-- What a line shows, and the number that the next one should start with. A line past 4096 bytes is
not read, and after a line that is no record nothing is expected. -/
def judgeLine (expected : Option Nat) (ordinal : Nat) (line : Bytes) :
    List Anomaly × Option Nat :=
  if 4096 < line.length then ([.malformed ordinal line.length], none)
  else
    match Line.ofBytes? (stripReturn line) with
    | none => ([.malformed ordinal (stripReturn line).length], none)
    | some ⟨start, ended⟩ =>
        let skips : List Anomaly :=
          match expected with
          | none => []
          | some number => if start = number then [] else [.skip number start]
        let successor := (start + 1) % 100000
        let mismatches : List Anomaly :=
          if ended = successor then [] else [.mismatch start ended successor]
        (skips ++ mismatches, some ended)

/-- What lines show in order, from the one with the given ordinal on. -/
def judgeLines : Option Nat → Nat → List Bytes → List Anomaly
  | _, _, [] => []
  | expected, ordinal, line :: rest =>
      let (found, next) := judgeLine expected ordinal line
      found ++ judgeLines next (ordinal + 1) rest

def textReport (bytes : Bytes) : Report :=
  .tally (lines bytes).length (judgeLines none 1 (lines bytes))

theorem line_induction {P : Bytes → Prop}
    (last : ∀ bytes, newline ∉ bytes → P bytes)
    (line : ∀ head tail, newline ∉ head → P tail → P (head ++ newline :: tail))
    (bytes : Bytes) : P bytes := by
  induction h : bytes.length using Nat.strongRecOn generalizing bytes with
  | _ n ih =>
      by_cases cut : newline ∈ bytes
      · obtain ⟨head, tail, rfl, closed⟩ := List.eq_append_cons_of_mem cut
        apply line head tail closed
        apply ih tail.length _ tail rfl
        rw [← h, List.length_append, List.length_cons]
        omega
      · exact last bytes cut

theorem lines_of_not_mem {bytes : Bytes} (h : newline ∉ bytes) :
    lines bytes = if bytes = [] then [] else [bytes] := by
  rw [lines, List.splitOn_eq_singleton h]
  by_cases empty : bytes = [] <;> simp [empty]

theorem lines_cons {head : Bytes} (tail : Bytes) (h : newline ∉ head) :
    lines (head ++ newline :: tail) = head :: lines tail := by
  have some_piece : tail.splitOn newline ≠ [] := List.splitOn_ne_nil newline tail
  simp only [lines, List.splitOn_append_cons_self_of_not_mem h,
    List.getLast?_cons_of_ne_nil some_piece, List.dropLast_cons_of_ne_nil some_piece]
  split <;> rfl

namespace OpenLine

theorem extend_extend (line : OpenLine) (a b : Bytes) :
    (line.extend a).extend b = line.extend (a ++ b) := by
  simp only [extend, List.length_append, Nat.add_assoc]
  by_cases long : line.length + a.length ≤ lineLimit
  · have grown : line.held ++ a ++ b = line.held ++ (a ++ b) := by
      apply Array.ext'
      simp only [Array.toList_appendList, List.append_assoc]
    simp only [long, if_true, grown]
  · have longer : ¬line.length + (a.length + b.length) ≤ lineLimit := by omega
    simp only [longer, if_false]

end OpenLine

namespace TextChecker

theorem endLine_eq (c : TextChecker) (bytes : Bytes) :
    c.endLine bytes =
      if lineLimit < c.line.length + bytes.length then
        { c with line := {} }.reject (c.line.length + bytes.length)
      else { c with line := {} }.examine (c.line.held.toList ++ bytes) := by
  simp only [endLine]
  cases empty : c.line.held.isEmpty with
  | true =>
      have nothing : c.line.held.toList = [] := by simpa using empty
      simp only [if_true, nothing, List.nil_append]
  | false => rfl

theorem endLine_extend (c : TextChecker) (a b : Bytes) :
    { c with line := c.line.extend a }.endLine b = c.endLine (a ++ b) := by
  simp only [endLine_eq, OpenLine.extend, List.length_append, Nat.add_assoc]
  by_cases long : lineLimit < c.line.length + (a.length + b.length)
  · simp only [long, if_true]
  · have short : c.line.length + a.length ≤ lineLimit := by omega
    simp only [long, short, if_false, if_true, Array.toList_appendList, List.append_assoc]

theorem feed_open (c : TextChecker) {chunk : Bytes} (h : newline ∉ chunk) :
    c.feed chunk = { c with line := c.line.extend chunk } := by
  have uncut : chunk.dropWhile (· ≠ newline) = [] := by
    rw [List.dropWhile_eq_nil_iff]
    intro b hb
    simpa using ne_of_mem_of_not_mem hb h
  rw [feed]
  split
  · rfl
  · rename_i cut
    rw [uncut] at cut
    contradiction

theorem feed_line (c : TextChecker) {head : Bytes} (tail : Bytes) (h : newline ∉ head) :
    c.feed (head ++ newline :: tail) = (c.endLine head).feed tail := by
  have inside : ∀ b ∈ head, decide (b ≠ newline) = true := by
    intro b hb
    simpa using ne_of_mem_of_not_mem hb h
  have before : (head ++ newline :: tail).takeWhile (· ≠ newline) = head := by
    rw [List.takeWhile_append_of_pos inside]
    simp
  have behind : (head ++ newline :: tail).dropWhile (· ≠ newline) = newline :: tail := by
    rw [List.dropWhile_append_of_pos inside]
    simp
  rw [feed]
  split
  · rename_i cut
    rw [behind] at cut
    contradiction
  · rename_i cut
    rw [behind] at cut
    cases cut
    rw [before]

/-- Two chunks that follow each other do the same as one. -/
theorem feed_append (c : TextChecker) (a b : Bytes) : c.feed (a ++ b) = (c.feed a).feed b := by
  -- Only the open line at the end of `a` meets `b`, so the induction is on the lines of `a`.
  induction a using line_induction generalizing c with
  | last a ha =>
      rw [feed_open c ha]
      by_cases hb : newline ∈ b
      · obtain ⟨head, tail, rfl, closed⟩ := List.eq_append_cons_of_mem hb
        have both : newline ∉ a ++ head := by
          rw [List.mem_append]
          exact not_or.mpr ⟨ha, closed⟩
        rw [← List.append_assoc, feed_line c tail both, feed_line _ tail closed, endLine_extend]
      · have both : newline ∉ a ++ b := by
          rw [List.mem_append]
          exact not_or.mpr ⟨ha, hb⟩
        rw [feed_open c both, feed_open _ hb, OpenLine.extend_extend]
  | line head tail hh ih =>
      rw [List.append_assoc, List.cons_append, feed_line c _ hh, feed_line c _ hh, ih]

theorem foldl_feed (chunks : List Bytes) (c : TextChecker) (a : Bytes) :
    chunks.foldl feed (c.feed a) = c.feed (a ++ chunks.flatten) := by
  induction chunks generalizing a with
  | nil => rw [List.foldl_nil, List.flatten_nil, List.append_nil]
  | cons chunk chunks ih =>
      rw [List.foldl_cons, ← feed_append, ih, List.flatten_cons, List.append_assoc]

/-- Chunks fed to a new checker one after another do the same as all of them at once. -/
theorem foldl_feed_new (chunks : List Bytes) :
    chunks.foldl feed {} = ({} : TextChecker).feed chunks.flatten := by
  have nothing : ({} : TextChecker).feed [] = {} := feed_open {} List.not_mem_nil
  have onward := foldl_feed chunks {} []
  rwa [nothing, List.nil_append] at onward

theorem report_reject (c : TextChecker) (length : Nat) {records : Nat} {anomalies : List Anomaly}
    (h : c.report = .tally records anomalies) :
    (c.reject length).report =
      .tally (records + 1) (anomalies ++ [.malformed (records + 1) length]) := by
  have counted : c.journal.countRecord.report = .tally (records + 1) anomalies := by
    rw [Journal.report_countRecord, show c.journal.report = _ from h, Report.countRecord_tally]
  change (c.journal.countRecord.note
    (.malformed c.journal.countRecord.report.records length)).report = _
  rw [Journal.report_note, counted, Report.note_tally]
  rfl

theorem endLine_judged (c : TextChecker) (line : Bytes) (fresh : c.line = {}) {records : Nat}
    {anomalies : List Anomaly} (h : c.report = .tally records anomalies) :
    (c.endLine line).report = .tally (records + 1)
        (anomalies ++ (judgeLine c.previousEnd (records + 1) line).1) ∧
      (c.endLine line).previousEnd = (judgeLine c.previousEnd (records + 1) line).2 ∧
      (c.endLine line).line = {} ∧ (c.endLine line).finished = c.finished := by
  have same : { c with line := {} } = c := by
    cases c
    cases fresh
    rfl
  rw [endLine_eq, same, fresh]
  simp only [Nat.zero_add, List.nil_append, judgeLine, lineLimit]
  by_cases long : 4096 < line.length
  · simp only [long, if_true]
    exact ⟨report_reject c line.length h, rfl, fresh, rfl⟩
  · simp only [long, if_false, examine]
    cases Line.ofBytes? (stripReturn line) with
    | none => exact ⟨report_reject c (stripReturn line).length h, rfl, fresh, rfl⟩
    | some record =>
        have counted : c.journal.countRecord.report = .tally (records + 1) anomalies := by
          rw [Journal.report_countRecord, show c.journal.report = _ from h,
            Report.countRecord_tally]
        refine ⟨?_, rfl, fresh, rfl⟩
        have noted := Journal.report_foldl_note (lineAnomalies c.previousEnd record) _ counted
        cases expected : c.previousEnd with
        | none | some number =>
            rw [expected] at noted
            exact noted

/-- A last line without a newline is accounted for as if it had one, unless it is empty. -/
theorem finish_feed_open (c : TextChecker) (fresh : c.line = {}) (going : c.finished = false)
    {line : Bytes} (h : newline ∉ line) :
    (c.feed line).finish =
      { (if line = [] then c else c.endLine line) with finished := true } := by
  rw [feed_open c h, fresh]
  cases line with
  | nil =>
      obtain ⟨previousEnd, line, journal, finished⟩ := c
      obtain rfl : line = {} := fresh
      obtain rfl : finished = false := going
      rfl
  | cons b rest =>
      have held : ((#[] : Array UInt8) ++ b :: rest).isEmpty = false := by simp
      simp only [finish, going, endLine, fresh, OpenLine.extend, Nat.zero_add]
      by_cases long : lineLimit < (b :: rest).length
      · simp only [long, if_true]
        rfl
      · have short : (b :: rest).length ≤ lineLimit := by omega
        simp only [long, short, if_false, if_true, held, Bool.false_eq_true, Array.isEmpty_empty,
          Array.toList_appendList, List.nil_append, examine]
        cases Line.ofBytes? (stripReturn (b :: rest)) <;> rfl

/-- What a chunk adds to a report that is complete up to a newline. -/
theorem report_finish_feed (c : TextChecker) (bytes : Bytes) (fresh : c.line = {})
    (going : c.finished = false) {records : Nat} {anomalies : List Anomaly}
    (h : c.report = .tally records anomalies) :
    (c.feed bytes).finish.report = .tally (records + (lines bytes).length)
      (anomalies ++ judgeLines c.previousEnd (records + 1) (lines bytes)) := by
  induction bytes using line_induction generalizing c records anomalies with
  | last bytes hb =>
      rw [lines_of_not_mem hb]
      rw [finish_feed_open c fresh going hb]
      by_cases empty : bytes = []
      · simp only [empty, if_true, List.length_nil, judgeLines, List.append_nil]
        exact h
      · have judged := (endLine_judged c bytes fresh h).1
        simp only [empty, if_false, List.length_singleton, judgeLines, List.append_nil]
        exact judged
  | line head tail hh ih =>
      obtain ⟨reported, expected, emptied, unfinished⟩ := endLine_judged c head fresh h
      rw [feed_line c tail hh, lines_cons tail hh, ih _ emptied (unfinished.trans going) reported,
        expected, List.length_cons, judgeLines, List.append_assoc]
      congr 1
      omega

theorem report_chunks (chunks : List Bytes) :
    (chunks.foldl feed {}).finish.report = textReport chunks.flatten := by
  have nothing : ({} : TextChecker).report = .tally 0 [] := rfl
  rw [foldl_feed_new, report_finish_feed {} chunks.flatten rfl rfl nothing, Nat.zero_add]
  rfl

/-- However a text stream is cut into chunks, the checker reports what the reference reports on the
whole. -/
theorem text_report_eq_reference (chunks : List Bytes) :
    (chunks.foldl feed {}).finish.report = textReport chunks.flatten ∧
      ∀ others : List Bytes, others.flatten = chunks.flatten →
        (others.foldl feed {}).finish.report = (chunks.foldl feed {}).finish.report := by
  refine ⟨report_chunks chunks, ?_⟩
  intro others same
  rw [report_chunks others, report_chunks chunks, same]

end TextChecker

end BulkStream.Integrity
