import BulkStream.Proofs.BinaryReference
import BulkStream.Proofs.LineJudgement
import BulkStream.Proofs.RecordCuts

/-!
What a checker has examined. At any time its report is the tally of the whole records it was given
so far, in order, and what it holds is the beginning of the next one. Feeding a chunk examines the
records that it completes, and finishing examines what is held as the last record.
-/
namespace BulkStream.Integrity

/-- The anomalies that records show, in order. -/
def anomalies : RecordFormat → List Bytes → List Anomaly
  | .binary f, records =>
      (neighbours (records.filterMap leadingWord?)).filterMap (judgePair f.stride)
  | .text, records => judgeLines none 1 records

namespace TextChecker

/-- The records are the lines that the checker has closed, and the last bytes are those of the open
one. -/
structure Examined (c : TextChecker) (records : List Bytes) (rest : Bytes) (ended : Bool) :
    Prop where
  reported : c.report = .tally records.length (anomalies .text records)
  expects : c.previousEnd = expectedAfter none records
  holds : c.line = ({} : OpenLine).extend rest
  part : IsPart .text rest
  finished : c.finished = ended

namespace Examined

variable {c : TextChecker} {records : List Bytes} {rest : Bytes} {ended : Bool}

theorem start : Examined {} [] [] false := ⟨rfl, rfl, rfl, List.not_mem_nil, rfl⟩

/-- The checker goes on from where the open line begins. -/
theorem resume (h : Examined c records rest ended) :
    Examined { c with line := {} } records [] ended ∧ c = { c with line := {} }.feed rest := by
  refine ⟨⟨h.reported, h.expects, rfl, List.not_mem_nil, h.finished⟩, ?_⟩
  rw [feed_open _ h.part, ← h.holds]

theorem endLine (h : Examined c records [] ended) (line : Bytes) :
    Examined (c.endLine line) (records ++ [line]) [] ended := by
  obtain ⟨reported, expected, emptied, going⟩ := endLine_judged c line h.holds h.reported
  refine ⟨?_, ?_, emptied, h.part, going.trans h.finished⟩
  · rw [reported, h.expects]
    simp [anomalies, judgeLines_append, judgeLines, Nat.add_comm 1]
  · rw [expected, judgeLine_snd]
    simp [expectedAfter]

theorem feed_new (h : Examined c records [] ended) (bytes : Bytes) :
    Examined (c.feed bytes) (records ++ wholeRecords .text bytes) (remainder .text bytes)
      ended := by
  have valid : RecordFormat.text.IsValid := trivial
  induction bytes using record_induction valid generalizing c records with
  | part rest part =>
      have grown : Examined { c with line := c.line.extend rest } records rest ended := by
        refine ⟨h.reported, h.expects, ?_, part, h.finished⟩
        rw [h.holds, OpenLine.extend_extend, List.nil_append]
      rw [feed_open c part, wholeRecords_part part, remainder_part part, List.append_nil]
      exact grown
  | whole record tail whole ih =>
      rw [wholeRecords_closed valid whole, remainder_closed whole, ← List.singleton_append,
        ← List.append_assoc]
      rw [closed, List.append_assoc, List.singleton_append, feed_line c tail whole]
      exact ih (h.endLine record)

theorem feed (h : Examined c records rest ended) (chunk : Bytes) :
    Examined (c.feed chunk) (records ++ wholeRecords .text (rest ++ chunk))
      (remainder .text (rest ++ chunk)) ended := by
  obtain ⟨new, same⟩ := h.resume
  rw [same, ← feed_append]
  exact new.feed_new (rest ++ chunk)

theorem finish (h : Examined c records rest false) :
    Examined c.finish (records ++ lastRecord .text rest) [] true := by
  obtain ⟨new, same⟩ := h.resume
  rw [same, finish_feed_open _ rfl new.finished h.part, lastRecord]
  by_cases empty : rest = []
  · simp only [empty, if_true, List.append_nil]
    exact ⟨new.reported, new.expects, new.holds, new.part, rfl⟩
  · have closed := new.endLine rest
    simp only [empty, if_false]
    exact ⟨closed.reported, closed.expects, closed.holds, closed.part, rfl⟩

end Examined

/-- A new checker has examined the lines that end in the chunks it was given. -/
theorem examined_chunks (chunks : List Bytes) :
    Examined (chunks.foldl feed {}) (wholeRecords .text chunks.flatten)
      (remainder .text chunks.flatten) false := by
  rw [foldl_feed_new]
  exact Examined.start.feed_new chunks.flatten

end TextChecker

namespace BinaryChecker

/-- The records are all that the checker was given, and the last bytes are what it holds of the
next. -/
structure Examined (f : BinaryFormat) (c : BinaryChecker) (records : List Bytes) (rest : Bytes)
    (ended : Bool) : Prop where
  format : c.format = f
  reported : c.report = .tally records.length (anomalies (.binary f) records)
  previous : c.previous = (records.filterMap leadingWord?).getLast?
  holds : c.held = rest.toArray
  part : IsPart (.binary f) rest
  finished : c.finished = ended

namespace Examined

variable {f : BinaryFormat} {c : BinaryChecker} {records : List Bytes} {rest : Bytes}
  {ended : Bool}

theorem start (valid : f.IsValid) : Examined f { format := f } [] [] false :=
  ⟨rfl, rfl, rfl, rfl, isPart_nil valid, rfl⟩

theorem examineRecord (h : Examined f c records rest ended) {record : Bytes}
    (wide : counterSize ≤ record.length) :
    Examined f (c.examineRecord record) (records ++ [record]) rest ended := by
  obtain ⟨counter, word⟩ := Option.isSome_iff_exists.mp ((leadingWord?_isSome record).mpr wide)
  have counters : (records ++ [record]).filterMap leadingWord? =
      records.filterMap leadingWord? ++ [counter] := by simp [word]
  have judged := examine_judged c counter h.reported
  rw [h.previous, h.format] at judged
  simp only [BinaryChecker.examineRecord, word]
  refine ⟨h.format, ?_, ?_, h.holds, h.part, h.finished⟩
  · rw [judged, anomalies, anomalies, counters, neighbours_concat (records.filterMap leadingWord?),
      List.filterMap_append, List.length_append, List.length_singleton]
  · rw [counters]
    simp [examine]

theorem hold (h : Examined f c records rest ended) {held : Bytes} (part : IsPart (.binary f) held) :
    Examined f (c.hold held) records held ended :=
  ⟨h.format, h.reported, h.previous, rfl, part, h.finished⟩

/-- Bytes that begin with a record, whatever was held before. -/
theorem run (h : Examined f c records rest ended) (valid : f.IsValid) (bytes : Bytes) :
    Examined f (c.run bytes) (records ++ wholeRecords (.binary f) bytes)
      (remainder (.binary f) bytes) ended := by
  have formatValid : (RecordFormat.binary f).IsValid := valid
  have positive : 0 < c.format.recordSize := by
    rw [h.format]
    exact valid.positive
  induction bytes using record_induction formatValid generalizing c records with
  | part held part =>
      have short : held.length < c.format.recordSize := by rwa [h.format]
      rw [run_short c short, wholeRecords_part part, remainder_part part, List.append_nil]
      exact h.hold part
  | whole record tail whole ih =>
      have size : record.length = c.format.recordSize := by rwa [h.format]
      have wide : counterSize ≤ record.length := by
        rw [size, h.format]
        exact valid.1
      have next := h.examineRecord wide
      rw [wholeRecords_closed formatValid whole, remainder_closed whole, ← List.singleton_append,
        ← List.append_assoc, closed, run_record c record tail positive size]
      exact ih next (by rwa [examineRecord_format])

theorem feed (h : Examined f c records rest ended) (valid : f.IsValid) (chunk : Bytes) :
    Examined f (c.feed chunk) (records ++ wholeRecords (.binary f) (rest ++ chunk))
      (remainder (.binary f) (rest ++ chunk)) ended := by
  have same : c.hold rest = c := by
    rw [BinaryChecker.hold, ← h.holds]
  have short : rest.length < c.format.recordSize := by
    rw [h.format]
    exact h.part
  have fed := c.feed_hold chunk short
  rw [same] at fed
  rw [fed]
  exact h.run valid (rest ++ chunk)

theorem finish (h : Examined f c records rest false) (valid : f.IsValid) :
    Examined f c.finish (records ++ lastRecord (.binary f) rest) [] true := by
  have nothing : IsPart (.binary f) [] := isPart_nil valid
  have held : c.held.toList = rest := by rw [h.holds]
  have settled : Examined f c.settle (records ++ lastRecord (.binary f) rest) [] false := by
    rw [settle, held, lastRecord]
    by_cases wide : counterSize ≤ rest.length
    · rw [if_pos wide]
      exact (h.examineRecord wide).hold nothing
    · have word : leadingWord? rest = none := by
        rw [← Option.not_isSome_iff_eq_none, leadingWord?_isSome]
        exact wide
      simp only [wide, if_false, List.append_nil, BinaryChecker.examineRecord, word]
      exact h.hold nothing
  simp only [BinaryChecker.finish, h.finished]
  exact ⟨settled.format, settled.reported, settled.previous, settled.holds, settled.part, rfl⟩

end Examined

/-- A new checker has examined the whole records among the bytes it was given. -/
theorem examined_chunks {f : BinaryFormat} (valid : f.IsValid) (chunks : List Bytes) :
    Examined f (chunks.foldl feed { format := f }) (wholeRecords (.binary f) chunks.flatten)
      (remainder (.binary f) chunks.flatten) false := by
  rw [foldl_feed_new valid]
  exact (Examined.start valid).run valid chunks.flatten

end BinaryChecker

end BulkStream.Integrity
