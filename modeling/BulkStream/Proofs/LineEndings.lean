import BulkStream.Proofs.RecordCuts

/-!
Line endings. A carriage return before the newline is part of the line that is cut out of a stream,
and is stripped before the line is read and before its length is told. So it makes no difference
where lines end in one, as long as it does not push a line past the longest that is read.
-/
namespace BulkStream.Integrity

inductive LineEnding
  | lf
  | crlf
deriving DecidableEq, Repr

def LineEnding.bytes : LineEnding → Bytes
  | .lf => [newline]
  | .crlf => [0x0d, newline]

/-- A line without its ending, which is short enough to be read with any. -/
structure PlainLine where
  bytes : Bytes
  unbroken : newline ∉ bytes
  bare : bytes.getLast? ≠ some 0x0d
  short : bytes.length ≤ 4095

/-- Lines as they stand in a stream, each with an ending of its own. -/
def written (lines : List (PlainLine × LineEnding)) : Bytes :=
  lines.flatMap fun (line, ending) => line.bytes ++ ending.bytes

namespace PlainLine

/-- What is cut out of a stream as the line. -/
def ended (line : PlainLine) : LineEnding → Bytes
  | .lf => line.bytes
  | .crlf => line.bytes ++ [0x0d]

variable (line : PlainLine) (ending : LineEnding)

theorem ended_append_newline : line.ended ending ++ [newline] = line.bytes ++ ending.bytes := by
  cases ending with
  | lf => rfl
  | crlf => exact List.append_assoc _ _ _

theorem newline_notMem_ended : newline ∉ line.ended ending := by
  cases ending with
  | lf => exact line.unbroken
  | crlf => simpa [ended, newline] using line.unbroken

theorem length_ended_le : (line.ended ending).length ≤ 4096 := by
  have short := line.short
  cases ending with
  | lf => exact short.trans (by decide)
  | crlf =>
      rw [ended, List.length_append, List.length_singleton]
      omega

theorem stripReturn_ended : stripReturn (line.ended ending) = line.bytes := by
  cases ending with
  | lf => exact if_neg line.bare
  | crlf => simp [ended, stripReturn]

/-- A line is judged by what it is without its ending. -/
theorem judgeLine_ended (expected : Option Nat) (ordinal : Nat) :
    judgeLine expected ordinal (line.ended ending) = judgeLine expected ordinal line.bytes := by
  have ended_short : ¬4096 < (line.ended ending).length :=
    Nat.not_lt.mpr (line.length_ended_le ending)
  have short : ¬4096 < line.bytes.length := Nat.not_lt.mpr (line.length_ended_le .lf)
  have bare : stripReturn line.bytes = line.bytes := line.stripReturn_ended .lf
  simp only [judgeLine, ended_short, short, if_false, line.stripReturn_ended, bare]

end PlainLine

theorem judgeLines_ended (written : List (PlainLine × LineEnding)) (rest : List Bytes)
    (expected : Option Nat) (ordinal : Nat) :
    judgeLines expected ordinal (written.map (fun (line, ending) => line.ended ending) ++ rest) =
      judgeLines expected ordinal (written.map (fun (line, _) => line.bytes) ++ rest) := by
  induction written generalizing expected ordinal with
  | nil => rfl
  | cons pair written ih =>
      obtain ⟨line, ending⟩ := pair
      simp [judgeLines, line.judgeLine_ended, ih]

theorem lines_written (all : List (PlainLine × LineEnding)) (last : Bytes) :
    lines (written all ++ last) =
      all.map (fun (line, ending) => line.ended ending) ++ lines last := by
  have unbroken : ∀ line ∈ all.map (fun (line, ending) => line.ended ending), newline ∉ line := by
    intro line member
    obtain ⟨⟨plain, ending⟩, -, rfl⟩ := List.mem_map.mp member
    exact plain.newline_notMem_ended ending
  have same : written all = terminated (all.map fun (line, ending) => line.ended ending) := by
    rw [terminated, List.flatMap_map]
    apply List.flatMap_congr
    intro pair member
    exact (pair.1.ended_append_newline pair.2).symm
  rw [same, lines_terminated_append unbroken]

/-- A stream is reported on as if its lines had no endings but newlines. -/
theorem textReport_written (all : List (PlainLine × LineEnding)) (last : Bytes) :
    textReport (written all ++ last) = .tally (all.length + (lines last).length)
      (judgeLines none 1 ((all.map Prod.fst).map PlainLine.bytes ++ lines last)) := by
  rw [textReport, lines_written, judgeLines_ended, List.length_append, List.length_map,
    List.map_map]
  rfl

/-- Each line may end in a newline alone or in a carriage return and a newline: the report is the
same, however the stream comes and whatever follows the lines. -/
theorem line_endings_ignored (a b : List (PlainLine × LineEnding))
    (same : a.map Prod.fst = b.map Prod.fst) (last : Bytes) (chunks others : List Bytes)
    (left : chunks.flatten = written a ++ last) (right : others.flatten = written b ++ last) :
    (chunks.foldl TextChecker.feed {}).finish.report =
      (others.foldl TextChecker.feed {}).finish.report := by
  have lengths : a.length = b.length := by simpa using congrArg List.length same
  rw [TextChecker.report_chunks, TextChecker.report_chunks, left, right, textReport_written,
    textReport_written, same, lengths]

/-- A line as long as it may be, with a carriage return that comes in another chunk than its
newline. -/
theorem mixed_line_endings_ignored :
    ∃ long : PlainLine, long.bytes.length = 4095 ∧
      let empty : PlainLine := ⟨[], List.not_mem_nil, nofun, Nat.zero_le _⟩
      let chunks : List Bytes := [long.bytes ++ [0x0d], [newline, newline], [0x31]]
      let others : List Bytes := [long.bytes ++ [newline, 0x0d], [newline, 0x31]]
      chunks.flatten = written [(long, .crlf), (empty, .lf)] ++ [0x31] ∧
        others.flatten = written [(long, .lf), (empty, .crlf)] ++ [0x31] ∧
        (chunks.foldl TextChecker.feed {}).finish.report =
          (others.foldl TextChecker.feed {}).finish.report := by
  have full : (List.replicate 4095 (0x78 : UInt8)).length = 4095 := List.length_replicate
  have unbroken : newline ∉ List.replicate 4095 (0x78 : UInt8) := fun member =>
    absurd (List.eq_of_mem_replicate member) (by decide)
  have bare : (List.replicate 4095 (0x78 : UInt8)).getLast? ≠ some 0x0d := fun last =>
    absurd (List.eq_of_mem_replicate (List.mem_of_getLast? last)) (by decide)
  obtain ⟨long, size⟩ : ∃ long : PlainLine, long.bytes.length = 4095 :=
    ⟨⟨_, unbroken, bare, full.le⟩, full⟩
  refine ⟨long, size, ?_⟩
  intro empty chunks others
  have left : chunks.flatten = written [(long, .crlf), (empty, .lf)] ++ [0x31] := by
    simp [chunks, written, LineEnding.bytes, empty]
  have right : others.flatten = written [(long, .lf), (empty, .crlf)] ++ [0x31] := by
    simp [others, written, LineEnding.bytes, empty]
  have same := line_endings_ignored [(long, .crlf), (empty, .lf)] [(long, .lf), (empty, .crlf)] rfl
    [0x31] chunks others left right
  exact ⟨left, right, same⟩

end BulkStream.Integrity
