import Mathlib.Data.List.Chain
import Mathlib.Data.List.Infix
import BulkStream.Proofs.Examination
import BulkStream.Proofs.TextLines

/-!
Clean streams that end anywhere. What stands before the cut is clean, so only the record that the
cut goes through is in question. A binary record shows nothing with a part of it gone: it counts if
it still has its counter. A line may have lost its last number, or part of it, but not the first one
if there is anything to read, so it follows the line before it and shows one anomaly at most.
-/
namespace BulkStream.Integrity

open Peripheral

/-- A record: its counter, and bytes up to the size. -/
structure CounterRecord (f : BinaryFormat) where
  counter : UInt32
  others : Bytes
  whole : counterSize + others.length = f.recordSize

def CounterRecord.bytes {f : BinaryFormat} (r : CounterRecord f) : Bytes :=
  wordBytes r.counter ++ r.others

/-- Each counter is one stride after the one before it, modulo 2^32. -/
def Steady {f : BinaryFormat} (records : List (CounterRecord f)) : Prop :=
  records.IsChain fun a b => b.counter = a.counter + f.stride

section Counters

variable {f : BinaryFormat}

theorem CounterRecord.isWhole (r : CounterRecord f) : IsWhole (.binary f) r.bytes := by
  have size := r.whole
  rw [counterSize] at size
  simp only [IsWhole, bytes, wordBytes, List.length_append, List.length_cons, List.length_nil]
  omega

theorem counters_of_records (records : List (CounterRecord f)) :
    (records.map CounterRecord.bytes).filterMap leadingWord? =
      records.map CounterRecord.counter := by
  induction records with
  | nil => rfl
  | cons r records ih => simp [CounterRecord.bytes, leadingWord?_wordBytes_append, ← ih]

/-- Counters that keep their stride show nothing. -/
theorem judged_steady {stride : UInt32} {counters : List UInt32}
    (steady : counters.IsChain fun a b => b = a + stride) :
    (neighbours counters).filterMap (judgePair stride) = [] := by
  induction counters with
  | nil => rfl
  | cons a counters ih =>
      cases counters with
      | nil => rfl
      | cons b counters =>
          obtain ⟨rfl, onward⟩ := List.isChain_cons_cons.mp steady
          have rest := ih onward
          simpa [neighbours, judgePair_add] using rest

theorem leadingWord?_front {front bytes : Bytes} (before : front <+: bytes)
    (wide : counterSize ≤ front.length) : leadingWord? front = leadingWord? bytes := by
  obtain ⟨rest, rfl⟩ := before
  have four : 4 ≤ front.length := wide
  rw [← leadingWord?_take, ← leadingWord?_take (front ++ rest), List.take_append_of_le_length four]

/-- The counters of a stream that is cut are those of the whole one, as far as they go. -/
theorem counters_cut (valid : f.IsValid) {records : List (CounterRecord f)} {bytes : Bytes}
    (cut : bytes <+: records.flatMap CounterRecord.bytes) :
    (wholeRecords (.binary f) bytes ++
        lastRecord (.binary f) (remainder (.binary f) bytes)).filterMap leadingWord? <+:
      records.map CounterRecord.counter := by
  have formatValid : (RecordFormat.binary f).IsValid := valid
  have whole : ∀ r ∈ records.map CounterRecord.bytes, IsWhole (.binary f) r := by
    intro r member
    obtain ⟨record, -, rfl⟩ := List.mem_map.mp member
    exact record.isWhole
  have joined : records.flatMap CounterRecord.bytes =
      (records.map CounterRecord.bytes).flatMap (closed (.binary f)) := by
    simp [List.flatMap_map, closed]
  obtain ⟨later, split, ahead⟩ := cut_records formatValid whole (joined ▸ cut)
  rw [← counters_of_records, split, List.filterMap_append, List.filterMap_append,
    List.prefix_append_right_inj, lastRecord]
  split
  · rename_i wide
    cases later with
    | nil =>
        rw [List.prefix_nil.mp ahead] at wide
        exact absurd wide (by decide)
    | cons record later =>
        obtain ⟨counter, word⟩ := Option.isSome_iff_exists.mp ((leadingWord?_isSome _).mpr wide)
        have same : leadingWord? record = some counter := leadingWord?_front ahead wide ▸ word
        simp [word, same]
  · exact List.nil_prefix

end Counters

/-- A line as it should be: a number, a filler of full width without white space, and the next
number. -/
structure CleanLine where
  start : Nat
  filler : Bytes
  below : start < lineModulus
  wide : filler.length = fillerWidth
  word : Visible filler

namespace CleanLine

/-- The line without its newline. -/
def body (line : CleanLine) : Bytes := numberedLine line.start line.filler

def bytes (line : CleanLine) : Bytes := line.body ++ [newline]

end CleanLine

/-- Each line starts with the number that the line before it ended with. -/
def Linked (lines : List CleanLine) : Prop := lines.IsChain fun a b => b.start = nextNumber a.start

/-- If a number is expected, the next line starts with it. -/
def Continues (expected : Option Nat) (lines : List CleanLine) : Prop :=
  ∀ number ∈ expected, ∀ line ∈ lines.head?, line.start = number

section Lines

theorem continues_none (lines : List CleanLine) : Continues none lines := by simp [Continues]

theorem skipOf_eq_nil {expected : Option Nat} {start : Nat}
    (same : ∀ number ∈ expected, start = number) : skipOf expected start = [] := by
  cases expected with
  | none => rfl
  | some number => exact if_pos (same number rfl)

variable {expected : Option Nat}

theorem CleanLine.isWhole (line : CleanLine) : IsWhole .text line.body :=
  (visible_numberedLine line.word).newline_notMem

theorem CleanLine.judged (line : CleanLine) (ordinal : Nat)
    (follows : ∀ number ∈ expected, line.start = number) :
    judgeLine expected ordinal line.body = ([], some (nextNumber line.start)) := by
  have short : line.body.length ≤ 4096 := (length_numberedLine line.wide).le.trans (by decide)
  have read : Line.ofBytes? (stripReturn line.body) = some ⟨line.start, nextNumber line.start⟩ := by
    rw [body, (visible_numberedLine line.word).stripReturn_eq]
    exact ofBytes?_numberedLine line.below line.wide line.word
  rw [judgeLine_record short read, skipOf_eq_nil follows, mismatchOf, if_pos rfl, List.append_nil]

/-- Linked lines show nothing, and what comes next is the line that is linked to them. -/
theorem judgeLines_linked {front back : List CleanLine} (linked : Linked (front ++ back))
    (continues : Continues expected (front ++ back)) (ordinal : Nat) :
    judgeLines expected ordinal (front.map CleanLine.body) = [] ∧
      Continues (expectedAfter expected (front.map CleanLine.body)) back := by
  induction front generalizing expected ordinal with
  | nil => exact ⟨rfl, continues⟩
  | cons line front ih =>
      have judged := line.judged ordinal fun number member => continues number member line rfl
      have next : Continues (some (nextNumber line.start)) (front ++ back) := by
        rintro _ ⟨⟩ following ahead
        exact linked.rel_head? ahead
      have later := ih linked.tail next (ordinal + 1)
      have ended : endOf? line.body = some (nextNumber line.start) := by
        rw [← judgeLine_snd expected ordinal, judged]
      simpa [judgeLines, expectedAfter, judged, ended] using later

/-- Any part of a line starts with the number of the line, if it can be read. -/
theorem CleanLine.start_of_front (line : CleanLine) {front : Bytes} (before : front <+: line.body)
    {read : Line} (h : Line.ofBytes? front = some read) : read.start = line.start := by
  have number : digitBytes numberWidth line.start <+: line.body := List.prefix_append _ _
  -- A part that stops within the number is digits alone, and those are never read.
  rcases List.prefix_or_prefix_of_prefix before number with digits | ⟨tail, rfl⟩
  · have few : AtMost 6 Digit front := ⟨digits.length_le.trans (length_digitBytes _ _).le,
      fun b member => digitBytes_digits _ _ b (digits.subset member)⟩
    rw [ofBytes?_digits few] at h
    contradiction
  · exact start_of_digitBytes (line.below.trans (by decide)) h

theorem CleanLine.length_judgeLine_front (line : CleanLine) {front : Bytes}
    (before : front <+: line.body) (follows : ∀ number ∈ expected, line.start = number)
    (ordinal : Nat) : (judgeLine expected ordinal front).1.length ≤ 1 := by
  have visible : Visible front := fun b member =>
    visible_numberedLine line.word b (before.subset member)
  rcases judgeLine_cases front with ⟨length, judged⟩ | ⟨start, ended, read, judged⟩
  · simp [judged]
  · rw [visible.stripReturn_eq] at read
    have same : start = line.start := line.start_of_front before read
    rw [judged, skipOf_eq_nil (same ▸ follows), List.nil_append]
    exact length_mismatchOf_le start ended

/-- What the end of the stream makes of the beginning of the next line. -/
theorem length_judgeLines_left {back : List CleanLine} (continues : Continues expected back)
    {rest : Bytes} (ahead : rest <+: (back.map CleanLine.body).head?.getD []) (ordinal : Nat) :
    (judgeLines expected ordinal (lastRecord .text rest)).length ≤ 1 := by
  rw [lastRecord]
  split
  · exact Nat.zero_le 1
  · rename_i some_bytes
    cases back with
    | nil => exact absurd (List.prefix_nil.mp ahead) some_bytes
    | cons line back =>
        have found := line.length_judgeLine_front ahead
          (fun number member => continues number member line rfl) ordinal
        simpa [judgeLines] using found

theorem flatMap_bytes (lines : List CleanLine) :
    lines.flatMap CleanLine.bytes = terminated (lines.map CleanLine.body) := by
  rw [terminated, List.flatMap_map]
  rfl

/-- The lines of a stream that is cut: those before the cut, and of the next one what is left. -/
theorem lines_cut {lines : List CleanLine} {bytes : Bytes}
    (cut : bytes <+: lines.flatMap CleanLine.bytes) :
    ∃ front back, lines = front ++ back ∧ wholeRecords .text bytes = front.map CleanLine.body ∧
      remainder .text bytes <+: (back.map CleanLine.body).head?.getD [] := by
  have whole : ∀ body ∈ lines.map CleanLine.body, IsWhole .text body := by
    intro body member
    obtain ⟨line, -, rfl⟩ := List.mem_map.mp member
    exact line.isWhole
  have valid : RecordFormat.text.IsValid := trivial
  rw [flatMap_bytes] at cut
  obtain ⟨later, split, ahead⟩ := cut_records valid whole cut
  obtain ⟨front, back, rfl, read, rfl⟩ := List.map_eq_append_iff.mp split
  exact ⟨front, back, rfl, read.symm, ahead⟩

/-- Nothing is lost of a line that is cut just before its newline. -/
theorem lines_of_clean {front : List CleanLine} {bytes : Bytes}
    (boundary : bytes = front.flatMap CleanLine.bytes ∨
      bytes ++ [newline] = front.flatMap CleanLine.bytes) :
    lines bytes = front.map CleanLine.body := by
  have unbroken (some_lines : List CleanLine) :
      ∀ body ∈ some_lines.map CleanLine.body, newline ∉ body := by
    intro body member
    obtain ⟨line, -, rfl⟩ := List.mem_map.mp member
    exact line.isWhole
  rcases boundary with rfl | short
  · rw [flatMap_bytes, lines_terminated (unbroken front)]
  · rcases List.eq_nil_or_concat front with rfl | ⟨front, line, rfl⟩
    · simp at short
    · have open_line : bytes = terminated (front.map CleanLine.body) ++ line.body := by
        rw [List.concat_eq_append, List.flatMap_append, List.flatMap_singleton, flatMap_bytes,
          CleanLine.bytes, ← List.append_assoc] at short
        exact List.append_cancel_right short
      have some_bytes : line.body ≠ [] := by
        apply List.ne_nil_of_length_pos
        rw [CleanLine.body, length_numberedLine line.wide]
        decide
      rw [open_line, lines_terminated_append (unbroken front), lines_of_not_mem line.isWhole,
        if_neg some_bytes, List.concat_eq_append, List.map_append, List.map_singleton]

end Lines

/-- A clean stream may end anywhere, and come in any chunks. Binary records show nothing then, and a
last one that is short counts if it has its counter. Lines show nothing before the end, and at most
one anomaly at the end; none if the last line is whole but for its newline. -/
theorem cut_stream_report :
    (∀ (f : BinaryFormat) (records : List (CounterRecord f)) (chunks : List Bytes), f.IsValid →
      Steady records → chunks.flatten <+: records.flatMap CounterRecord.bytes →
        let report := (chunks.foldl BinaryChecker.feed { format := f }).finish.report
        let length := chunks.flatten.length
        report.errors = 0 ∧
          report.records =
            length / f.recordSize + if 4 ≤ length % f.recordSize then 1 else 0) ∧
    ∀ (lines : List CleanLine) (chunks : List Bytes), Linked lines →
      chunks.flatten <+: lines.flatMap CleanLine.bytes →
        let checker := chunks.foldl TextChecker.feed {}
        checker.report.errors = 0 ∧ checker.finish.report.errors ≤ 1 ∧
          ∀ front, front <+: lines →
            chunks.flatten = front.flatMap CleanLine.bytes ∨
              chunks.flatten ++ [newline] = front.flatMap CleanLine.bytes →
            checker.finish.report.errors = 0 := by
  refine ⟨?binary, ?text⟩
  case binary =>
    intro f records chunks valid steady cut report length
    have chain : (records.map CounterRecord.counter).IsChain fun a b => b = a + f.stride :=
      (List.isChain_map _).mpr steady
    have onward := List.IsChain.prefix chain (counters_cut valid cut)
    have examined := BinaryChecker.examined_chunks valid chunks
    have reported : report = _ := (examined.finish valid).reported
    refine ⟨?_, ?_⟩
    · rw [reported]
      exact congrArg List.length (judged_steady onward)
    · rw [reported]
      simp only [Report.tally, List.length_append, length_wholeRecords valid, lastRecord,
        length_remainder, counterSize]
      split <;> rfl
  case text =>
    intro lines chunks linked cut checker
    have examined := TextChecker.examined_chunks chunks
    have before : checker.report = _ := examined.reported
    have after : checker.finish.report = _ := TextChecker.report_chunks chunks
    obtain ⟨front, back, rfl, read, ahead⟩ := lines_cut cut
    obtain ⟨clean, continues⟩ := judgeLines_linked linked (continues_none _) 1
    refine ⟨?_, ?_, ?_⟩
    · rw [before, read]
      exact congrArg List.length clean
    · rw [after, textReport, lines_eq_records, read]
      simp only [Report.tally, judgeLines_append, clean, List.nil_append]
      exact length_judgeLines_left continues ahead _
    · intro whole_lines included boundary
      obtain ⟨rest, same⟩ := included
      have none_found := (judgeLines_linked (same ▸ linked) (continues_none _) 1).1
      rw [after, textReport, lines_of_clean boundary]
      exact congrArg List.length none_found

/-- A binary stream that ends behind the counter of its second record, where the counters wrap, and
lines that end within the first number of the third, or before the newline of the second. -/
theorem cut_streams_reported :
    let records : List (CounterRecord ⟨5, 1⟩) := [⟨0xffffffff, [9], rfl⟩, ⟨0, [8], rfl⟩]
    let pieces : List Bytes := [[0xff, 0xff], [0xff, 0xff, 9, 0], [0, 0, 0]]
    let report := (pieces.foldl BinaryChecker.feed { format := ⟨5, 1⟩ }).finish.report
    let line (start : Nat) (below : start < lineModulus) : CleanLine :=
      ⟨start, List.replicate 94 0x78, below, List.length_replicate, by
        intro b member
        simp [List.eq_of_mem_replicate member, White]⟩
    let lines : List CleanLine :=
      [line 99999 (by decide), line 0 (by decide), line 1 (by decide)]
    let chunks : List Bytes := [(lines.take 2).flatMap CleanLine.bytes, [0x30], [0x30, 0x30]]
    let others : List Bytes :=
      [(lines.take 1).flatMap CleanLine.bytes, (line 0 (by decide)).body]
    (Steady records ∧ pieces.flatten <+: records.flatMap CounterRecord.bytes ∧
        report.errors = 0 ∧ report.records = 2) ∧
      Linked lines ∧ chunks.flatten <+: lines.flatMap CleanLine.bytes ∧
        (chunks.foldl TextChecker.feed {}).report.errors = 0 ∧
        (chunks.foldl TextChecker.feed {}).finish.report.errors ≤ 1 ∧
        (others.foldl TextChecker.feed {}).finish.report.errors = 0 := by
  intro records pieces report line lines chunks others
  have steady : Steady records := by simp [Steady, records]
  have cut : pieces.flatten <+: records.flatMap CounterRecord.bytes := by decide
  have linked : Linked lines := by simp [Linked, lines, line, nextNumber, lineModulus]
  have within : chunks.flatten <+: lines.flatMap CleanLine.bytes := by
    have digits : [0x30, 0x30, 0x30] <+: (line 1 (by decide)).bytes := by decide
    simpa [chunks, lines, List.prefix_append_right_inj] using digits
  have boundary : others.flatten ++ [newline] = (lines.take 2).flatMap CleanLine.bytes := by
    simp [others, lines, CleanLine.bytes]
  have front : lines.take 2 <+: lines := List.take_prefix 2 lines
  have before : others.flatten <+: lines.flatMap CleanLine.bytes :=
    (boundary ▸ List.prefix_append others.flatten [newline]).trans (List.IsPrefix.flatMap front _)
  obtain ⟨binary, text⟩ := cut_stream_report
  obtain ⟨clean, few, -⟩ := text lines chunks linked within
  obtain ⟨-, -, none_found⟩ := text lines others linked before
  obtain ⟨regular, counted⟩ := binary ⟨5, 1⟩ records pieces (by decide) steady cut
  exact ⟨⟨steady, cut, regular, counted.trans (by decide)⟩, linked, within, clean, few,
    none_found (lines.take 2) front (.inr boundary)⟩

end BulkStream.Integrity
