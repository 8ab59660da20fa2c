import BulkStream.Proofs.BinaryReference
import BulkStream.Proofs.LineJudgement
import BulkStream.Proofs.RecordCuts

/-!
Damage to one record. A counter is judged against the one before it and is what the next one is
judged against, and a line is asked for its two numbers and may hold the next one to the second of
them. Nothing of a record is remembered beyond the one that follows it, so two streams that differ
in one record are judged alike everywhere else.
-/
namespace BulkStream.Integrity

/-- Reports on as many records each, with so many errors more or less at most. -/
structure Report.Near (most : Nat) (r other : Report) : Prop where
  records : r.records = other.records
  no_more : r.errors ≤ other.errors + most
  no_fewer : other.errors ≤ r.errors + most

/-- Two streams of one length that differ in no byte outside of one record's place. -/
structure SameBut (f : BinaryFormat) (slot : Nat) (a b : Bytes) : Prop where
  length : a.length = b.length
  elsewhere : ∀ i, i / f.recordSize ≠ slot → a[i]? = b[i]?

section Counters

variable {f : BinaryFormat}

/-- The counters before a record's place, its own, and those behind it. -/
theorem counters_slot (valid : f.IsValid) (slot : Nat) (bytes : Bytes) :
    counters f bytes = counters f (bytes.take (f.recordSize * slot)) ++
      (leadingWord? ((bytes.drop (f.recordSize * slot)).take f.recordSize)).toList ++
      counters f (bytes.drop (f.recordSize * slot + f.recordSize)) := by
  induction slot generalizing bytes with
  | zero => simpa [counters_nil] using counters_first valid bytes
  | succ slot ih =>
      have within : min f.recordSize (f.recordSize * slot + f.recordSize) = f.recordSize :=
        Nat.min_eq_left (Nat.le_add_left _ _)
      rw [counters_first valid bytes, ih (bytes.drop f.recordSize),
        counters_first valid (bytes.take (f.recordSize * (slot + 1)))]
      simp only [Nat.mul_succ, List.take_take, List.drop_take, List.drop_drop, within,
        Nat.add_sub_cancel, List.append_assoc, Nat.add_comm f.recordSize]

variable {slot : Nat} {a b : Bytes}

theorem SameBut.front (same : SameBut f slot a b) :
    a.take (f.recordSize * slot) = b.take (f.recordSize * slot) := by
  apply List.ext_getElem?
  intro i
  rw [List.getElem?_take, List.getElem?_take]
  split
  · rename_i before
    exact same.elsewhere i (Nat.div_lt_of_lt_mul before).ne
  · rfl

theorem SameBut.back (valid : f.IsValid) (same : SameBut f slot a b) :
    a.drop (f.recordSize * slot + f.recordSize) = b.drop (f.recordSize * slot + f.recordSize) := by
  have positive := valid.positive
  apply List.ext_getElem?
  intro i
  have behind : (f.recordSize * slot + f.recordSize + i) / f.recordSize =
      slot + (i / f.recordSize + 1) := by
    rw [Nat.add_assoc, Nat.mul_add_div positive, Nat.add_div_left i positive]
  rw [List.getElem?_drop, List.getElem?_drop]
  apply same.elsewhere
  rw [behind]
  exact Nat.ne_of_gt (Nat.lt_add_of_pos_right (Nat.succ_pos _))

/-- One counter may not be the same, if there is one at that place at all. -/
theorem SameBut.counters (valid : f.IsValid) (same : SameBut f slot a b) :
    ∃ (front back : List UInt32) (x y : Option UInt32), x.isSome = y.isSome ∧
      counters f a = front ++ x.toList ++ back ∧ counters f b = front ++ y.toList ++ back := by
  have alike : (leadingWord? ((a.drop (f.recordSize * slot)).take f.recordSize)).isSome =
      (leadingWord? ((b.drop (f.recordSize * slot)).take f.recordSize)).isSome := by
    rw [Bool.eq_iff_iff, leadingWord?_isSome, leadingWord?_isSome]
    simp only [List.length_take, List.length_drop, same.length]
  refine ⟨_, _, _, _, alike, counters_slot valid slot a, ?_⟩
  rw [same.front, same.back valid]
  exact counters_slot valid slot b

end Counters

/-- How often a counter is not one stride after the one before it. -/
def breaks (stride : UInt32) (counters : List UInt32) : Nat :=
  ((neighbours counters).filterMap (judgePair stride)).length

/-- A counter has two neighbours, so it is part of two breaks at most. -/
theorem breaks_around (stride : UInt32) (front back : List UInt32) (x : UInt32) :
    breaks stride front + breaks stride back ≤ breaks stride (front ++ x :: back) ∧
      breaks stride (front ++ x :: back) ≤ breaks stride front + breaks stride back + 2 := by
  have before := List.length_filterMap_le (judgePair stride)
    (neighbours (front.getLast?.toList ++ [x]))
  have behind := List.length_filterMap_le (judgePair stride)
    (neighbours (x :: back.head?.toList))
  have one_before := Option.length_toList_le (o := front.getLast?)
  have one_behind := Option.length_toList_le (o := back.head?)
  simp only [length_neighbours, List.length_append, List.length_cons, List.length_nil] at before
  simp only [length_neighbours, List.length_cons] at behind
  -- The lists are named, because each of these laws matches its own result as well.
  rw [breaks, breaks, breaks, neighbours_append front x back, neighbours_concat front x,
    neighbours_cons x back]
  simp only [List.filterMap_append, List.length_append]
  omega

/-- Another counter in the same place makes a difference to its two neighbours only. -/
theorem breaks_swap (stride : UInt32) (front back : List UInt32) {x y : Option UInt32}
    (alike : x.isSome = y.isSome) :
    breaks stride (front ++ x.toList ++ back) ≤ breaks stride (front ++ y.toList ++ back) + 2 := by
  cases x with
  | none =>
      cases y with
      | none => exact Nat.le_add_right _ _
      | some other => contradiction
  | some counter =>
      cases y with
      | none => contradiction
      | some other =>
          have one := breaks_around stride front back counter
          have another := breaks_around stride front back other
          simp only [Option.toList_some, List.append_assoc, List.singleton_append]
          omega

/-- Another line in the same place shows two anomalies more at most, and the line after it one. -/
theorem length_judgeLines_swap (before after : List Bytes) (line other : Bytes) :
    (judgeLines none 1 (before ++ line :: after)).length ≤
      (judgeLines none 1 (before ++ other :: after)).length + 3 := by
  have here := length_judgeLine_le (expectedAfter none before) (1 + before.length) line
  have next := length_judgeLines_le_succ (endOf? line) (endOf? other) (1 + before.length + 1) after
  simp only [judgeLines_append, judgeLines, judgeLine_snd, List.length_append]
  omega

/-- Whatever happens to the bytes of one record, the report has as many records, and no more than
two errors more or fewer. The same holds of a line, whatever stands in its place, with no more than
three. -/
theorem damage_stays_local :
    (∀ (f : BinaryFormat) (slot : Nat) (chunks others : List Bytes), f.IsValid →
      SameBut f slot chunks.flatten others.flatten →
        Report.Near 2 (chunks.foldl BinaryChecker.feed { format := f }).finish.report
          (others.foldl BinaryChecker.feed { format := f }).finish.report) ∧
    ∀ (before after : List Bytes) (line other : Bytes) (chunks others : List Bytes),
      (∀ l ∈ before ++ line :: after, newline ∉ l) → (∀ l ∈ before ++ other :: after, newline ∉ l) →
      chunks.flatten = terminated (before ++ line :: after) →
      others.flatten = terminated (before ++ other :: after) →
        Report.Near 3 (chunks.foldl TextChecker.feed {}).finish.report
          (others.foldl TextChecker.feed {}).finish.report := by
  refine ⟨?binary, ?text⟩
  case binary =>
    intro f slot chunks others valid same
    obtain ⟨front, back, x, y, alike, left, right⟩ := same.counters valid
    rw [BinaryChecker.report_chunks valid, BinaryChecker.report_chunks valid, binaryReport,
      binaryReport, left, right]
    refine ⟨?_, breaks_swap f.stride front back alike, breaks_swap f.stride front back alike.symm⟩
    have counted : x.toList.length = y.toList.length := by
      cases x <;> cases y <;> simp_all
    simp [Report.tally, counted]
  case text =>
    intro before after line other chunks others unbroken unbrokenOthers left right
    rw [TextChecker.report_chunks, TextChecker.report_chunks, textReport, textReport, left, right,
      lines_terminated unbroken, lines_terminated unbrokenOthers]
    refine ⟨?_, length_judgeLines_swap before after line other,
      length_judgeLines_swap before after other line⟩
    simp [Report.tally]

/-- The bounds are met. A counter that is off its stride breaks with both of its neighbours; a line
that neither follows the one before it nor counts on shows a skip and a mismatch, and the next one a
skip. -/
theorem damaged_streams_near :
    let f : BinaryFormat := ⟨5, 1⟩
    let whole : Bytes := [0, 0, 0, 0, 9, 1, 0, 0, 0, 9, 2, 0, 0, 0, 9]
    let damaged : Bytes := [0, 0, 0, 0, 9, 7, 0, 0, 0, 8, 2, 0, 0, 0, 9]
    let report (bytes : Bytes) := ([bytes].foldl BinaryChecker.feed { format := f }).finish.report
    let line (start ended : UInt8) : Bytes := [0x30 + start, 0x20, 0x78, 0x20, 0x30 + ended]
    let text (lines : List Bytes) := ([terminated lines].foldl TextChecker.feed {}).finish.report
    (SameBut f 1 whole damaged ∧ Report.Near 2 (report whole) (report damaged) ∧
        (report whole).errors = 0 ∧ (report damaged).errors = 2) ∧
      Report.Near 3 (text [line 0 1, line 1 2, line 2 3]) (text [line 0 1, line 5 9, line 2 3]) ∧
        (text [line 0 1, line 1 2, line 2 3]).errors = 0 ∧
        (text [line 0 1, line 5 9, line 2 3]).errors = 3 := by
  intro f whole damaged report line text
  have valid : f.IsValid := by decide
  have same : SameBut f 1 whole damaged := by
    refine ⟨rfl, ?_⟩
    intro i elsewhere
    by_cases inside : i < 15
    · have agree : ∀ i < 15, i / 5 ≠ 1 → whole[i]? = damaged[i]? := by decide
      exact agree i inside elsewhere
    · rw [List.getElem?_eq_none (Nat.le_of_not_lt inside),
        List.getElem?_eq_none (Nat.le_of_not_lt inside)]
  have read : counters f whole = [0, 1, 2] ∧ counters f damaged = [0, 7, 2] := by
    simp [f, whole, damaged, counters, blocks, leadingWord?]
  have reported (bytes : Bytes) : report bytes = binaryReport f bytes := by
    have alone := BinaryChecker.report_chunks valid [bytes]
    rwa [List.flatten_singleton] at alone
  have judged (all : List Bytes) (unbroken : ∀ l ∈ all, newline ∉ l) :
      (text all).errors = (judgeLines none 1 all).length := by
    have alone := TextChecker.report_chunks [terminated all]
    rw [List.flatten_singleton, textReport, lines_terminated unbroken] at alone
    exact congrArg Report.errors alone
  obtain ⟨binary, lines⟩ := damage_stays_local
  refine ⟨⟨same, ?_, ?_, ?_⟩, ?_, ?_, ?_⟩
  · apply binary f 1 [whole] [damaged] valid
    simpa using same
  · rw [reported, binaryReport, read.1]
    decide
  · rw [reported, binaryReport, read.2]
    decide
  · exact lines [line 0 1] [line 2 3] (line 1 2) (line 5 9) [_] [_] (by decide) (by decide)
      (List.append_nil _) (List.append_nil _)
  · rw [judged _ (by decide)]
    decide
  · rw [judged _ (by decide)]
    decide

end BulkStream.Integrity
