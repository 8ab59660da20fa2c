import Mathlib.Data.List.DropRight
import BulkStream.Integrity.Checker
import BulkStream.Proofs.Blocks
import BulkStream.Proofs.TextReference

/-!
Cutting a stream into whole records and what is left over behind the last of them. A binary record
is whole when it has its size, a line when its newline has come. What is cut first does not depend
on what follows, so a stream that goes on is cut from where the rest of it begins.
-/
namespace BulkStream.Integrity

/-- Records of the format can be checked. -/
def RecordFormat.IsValid : RecordFormat → Prop
  | .binary f => f.IsValid
  | .text => True

/-- The records of a stream that are whole, lines without their newlines. -/
def wholeRecords : RecordFormat → Bytes → List Bytes
  | .binary f, bytes => (blocks f.recordSize bytes).filter (·.length = f.recordSize)
  | .text, bytes => (bytes.splitOn newline).dropLast

/-- What stands behind the last whole record. -/
def remainder : RecordFormat → Bytes → Bytes
  | .binary f, bytes => bytes.rtake (bytes.length % f.recordSize)
  | .text, bytes => bytes.rtakeWhile (· ≠ newline)

/-- The record that the end of the stream makes of what is left over. -/
def lastRecord : RecordFormat → Bytes → List Bytes
  | .binary _, rest => if counterSize ≤ rest.length then [rest] else []
  | .text, rest => if rest = [] then [] else [rest]

/-- What a whole record is, without its newline if it is a line. -/
def IsWhole : RecordFormat → Bytes → Prop
  | .binary f, record => record.length = f.recordSize
  | .text, record => newline ∉ record

/-- What cannot hold a whole record. -/
def IsPart : RecordFormat → Bytes → Prop
  | .binary f, rest => rest.length < f.recordSize
  | .text, rest => newline ∉ rest

/-- A whole record as it stands in a stream. -/
def closed : RecordFormat → Bytes → Bytes
  | .binary _, record => record
  | .text, record => record ++ [newline]

/-- Lines one after another, each with its newline. -/
def terminated (lines : List Bytes) : Bytes := lines.flatMap (closed .text)

theorem length_lastRecord_le (pattern : RecordFormat) (rest : Bytes) :
    (lastRecord pattern rest).length ≤ 1 := by
  cases pattern <;> (rw [lastRecord]; split <;> simp)

variable {pattern : RecordFormat}

/-- Induction over the whole records of a stream, of either format. -/
theorem record_induction (valid : pattern.IsValid) {P : Bytes → Prop}
    (part : ∀ rest, IsPart pattern rest → P rest)
    (whole : ∀ record tail, IsWhole pattern record → P tail → P (closed pattern record ++ tail))
    (bytes : Bytes) : P bytes := by
  cases pattern with
  | binary f =>
      exact block_induction (BinaryFormat.IsValid.positive valid) part whole bytes
  | text =>
      apply line_induction part
      intro head tail unbroken ih
      have onward := whole head tail unbroken ih
      simpa [closed] using onward

theorem wholeRecords_part {rest : Bytes} (part : IsPart pattern rest) :
    wholeRecords pattern rest = [] := by
  cases pattern with
  | binary f =>
      by_cases empty : rest = []
      · simp [wholeRecords, empty, blocks_nil]
      · have short : rest.length < f.recordSize := part
        simp [wholeRecords, blocks_short empty short.le, short.ne]
  | text => simp [wholeRecords, List.splitOn_eq_singleton part]

theorem wholeRecords_closed (valid : pattern.IsValid) {record : Bytes}
    (whole : IsWhole pattern record) (tail : Bytes) :
    wholeRecords pattern (closed pattern record ++ tail) =
      record :: wholeRecords pattern tail := by
  cases pattern with
  | binary f =>
      have positive := BinaryFormat.IsValid.positive valid
      have size : record.length = f.recordSize := whole
      simp [wholeRecords, closed, blocks_cons record tail positive size, size]
  | text =>
      have pieces : (record ++ newline :: tail).splitOn newline = record :: tail.splitOn newline :=
        List.splitOn_append_cons_self_of_not_mem whole tail
      have some_piece : tail.splitOn newline ≠ [] := List.splitOn_ne_nil newline tail
      simp [wholeRecords, closed, pieces, List.dropLast_cons_of_ne_nil some_piece]

theorem remainder_part {rest : Bytes} (part : IsPart pattern rest) :
    remainder pattern rest = rest := by
  cases pattern with
  | binary f =>
      have short : rest.length < f.recordSize := part
      simp [remainder, List.rtake, Nat.mod_eq_of_lt short]
  | text =>
      rw [remainder, List.rtakeWhile_eq_self_iff]
      intro b member
      simpa using ne_of_mem_of_not_mem member part

theorem remainder_closed {record : Bytes} (whole : IsWhole pattern record) (tail : Bytes) :
    remainder pattern (closed pattern record ++ tail) = remainder pattern tail := by
  cases pattern with
  | binary f =>
      have size : record.length = f.recordSize := whole
      have within : tail.length % f.recordSize ≤ tail.length := Nat.mod_le _ _
      simp only [remainder, closed, List.rtake, List.length_append, size, Nat.add_mod_left,
        List.drop_append]
      rw [List.drop_of_length_le (by omega), List.nil_append]
      congr 1
      omega
  | text =>
      simp only [remainder, closed, List.rtakeWhile, List.reverse_append, List.reverse_singleton]
      rw [List.takeWhile_append]
      split
      · rename_i all
        rw [(List.takeWhile_prefix _).eq_of_length all]
        simp
      · rfl

/-- What is left over is cut again, with what follows it. -/
theorem wholeRecords_append (valid : pattern.IsValid) (a b : Bytes) :
    wholeRecords pattern (a ++ b) =
      wholeRecords pattern a ++ wholeRecords pattern (remainder pattern a ++ b) := by
  induction a using record_induction valid with
  | part rest part => simp [wholeRecords_part part, remainder_part part]
  | whole record tail whole ih =>
      simp [List.append_assoc, wholeRecords_closed valid whole, remainder_closed whole, ih]

theorem remainder_append (valid : pattern.IsValid) (a b : Bytes) :
    remainder pattern (a ++ b) = remainder pattern (remainder pattern a ++ b) := by
  induction a using record_induction valid with
  | part rest part => rw [remainder_part part]
  | whole record tail whole ih =>
      rw [List.append_assoc, remainder_closed whole, remainder_closed whole, ih]

theorem length_wholeRecords {f : BinaryFormat} (valid : f.IsValid) (bytes : Bytes) :
    (wholeRecords (.binary f) bytes).length = bytes.length / f.recordSize := by
  have positive := valid.positive
  have formatValid : (RecordFormat.binary f).IsValid := valid
  induction bytes using record_induction formatValid with
  | part rest part => rw [wholeRecords_part part, List.length_nil, Nat.div_eq_of_lt part]
  | whole record tail whole ih =>
      have size : (closed (.binary f) record).length = f.recordSize := whole
      rw [wholeRecords_closed formatValid whole, List.length_cons, List.length_append, size, ih,
        Nat.add_div_left _ positive]

theorem length_remainder (f : BinaryFormat) (bytes : Bytes) :
    (remainder (.binary f) bytes).length = bytes.length % f.recordSize := by
  have within : bytes.length % f.recordSize ≤ bytes.length := Nat.mod_le _ _
  simp only [remainder, List.rtake, List.length_drop]
  omega

theorem lines_terminated_append {before : List Bytes} (unbroken : ∀ line ∈ before, newline ∉ line)
    (rest : Bytes) : lines (terminated before ++ rest) = before ++ lines rest := by
  induction before with
  | nil => rfl
  | cons line before ih =>
      have onward := ih fun other member => unbroken other (.tail _ member)
      have cut := lines_cons (terminated before ++ rest) (unbroken line (.head _))
      rw [onward] at cut
      simpa [terminated, closed] using cut

theorem lines_terminated {all : List Bytes} (unbroken : ∀ line ∈ all, newline ∉ line) :
    lines (terminated all) = all := by
  have read := lines_terminated_append unbroken []
  rwa [List.append_nil, lines_of_not_mem List.not_mem_nil, if_pos rfl, List.append_nil] at read

theorem lines_eq_records (bytes : Bytes) :
    lines bytes = wholeRecords .text bytes ++ lastRecord .text (remainder .text bytes) := by
  have valid : RecordFormat.text.IsValid := trivial
  induction bytes using line_induction with
  | last bytes unbroken =>
      have part : IsPart .text bytes := unbroken
      rw [lines_of_not_mem unbroken, wholeRecords_part part, remainder_part part]
      rfl
  | line head tail unbroken ih =>
      have whole : IsWhole .text head := unbroken
      have cut := wholeRecords_closed valid whole tail
      have left := remainder_closed whole tail
      simp only [closed, List.append_assoc, List.singleton_append] at cut left
      rw [lines_cons tail unbroken, cut, left, ih, List.cons_append]

theorem isPart_nil (valid : pattern.IsValid) : IsPart pattern [] := by
  cases pattern with
  | binary f => exact BinaryFormat.IsValid.positive valid
  | text => exact List.not_mem_nil

/-- A front of a record that stops short of its end. -/
theorem isPart_of_front {record front : Bytes} (whole : IsWhole pattern record)
    (before : front <+: closed pattern record) (short : ¬closed pattern record <+: front) :
    IsPart pattern front ∧ front <+: record := by
  cases pattern with
  | binary f =>
      have size : record.length = f.recordSize := whole
      have less : front.length < record.length := by
        by_contra long
        exact short (before.eq_of_length_le (Nat.le_of_not_lt long) ▸ List.prefix_rfl)
      exact ⟨less.trans_eq size, before⟩
  | text =>
      rcases List.prefix_concat_iff.mp before with same | inside
      · exact absurd (same ▸ List.prefix_rfl) short
      · exact ⟨fun member => whole (inside.subset member), inside⟩

/-- A stream of whole records that is cut anywhere holds those before the cut, and a front of the
next one. -/
theorem cut_records (valid : pattern.IsValid) {records : List Bytes}
    (whole : ∀ record ∈ records, IsWhole pattern record) {bytes : Bytes}
    (cut : bytes <+: records.flatMap (closed pattern)) :
    ∃ later, records = wholeRecords pattern bytes ++ later ∧
      remainder pattern bytes <+: later.head?.getD [] := by
  induction records generalizing bytes with
  | nil =>
      obtain rfl : bytes = [] := by simpa using cut
      exact ⟨[], by simp [wholeRecords_part (isPart_nil valid)],
        by simp [remainder_part (isPart_nil valid)]⟩
  | cons record records ih =>
      have first : IsWhole pattern record := whole record List.mem_cons_self
      rw [List.flatMap_cons] at cut
      by_cases past : closed pattern record <+: bytes
      · obtain ⟨tail, rfl⟩ := past
        have onward : tail <+: records.flatMap (closed pattern) :=
          (List.prefix_append_right_inj _).mp cut
        obtain ⟨later, split, front⟩ :=
          ih (fun r member => whole r (List.mem_cons_of_mem _ member)) onward
        refine ⟨later, ?_, ?_⟩
        · rw [wholeRecords_closed valid first, List.cons_append, ← split]
        · rwa [remainder_closed first]
      · have before := (List.prefix_or_prefix_of_prefix cut
          (List.prefix_append (closed pattern record) _)).resolve_right past
        obtain ⟨part, front⟩ := isPart_of_front first before past
        refine ⟨record :: records, ?_, ?_⟩
        · rw [wholeRecords_part part, List.nil_append]
        · rwa [remainder_part part]

end BulkStream.Integrity
