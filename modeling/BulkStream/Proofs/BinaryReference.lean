import BulkStream.Integrity.Binary
import BulkStream.Proofs.Blocks
import BulkStream.Proofs.Tally

/-!
What the binary checker computes. A stream is cut into records, the counters are read off them, and
each counter is judged against the one before it. The checker gives the report of exactly that: what
it holds between two chunks is the beginning of a record, and feeding a chunk is the same as cutting
what is held and the chunk together.
-/
namespace BulkStream.Integrity

/-- The counters of a stream, one for each record. A short record at the end has one if it has four
bytes. -/
def counters (f : BinaryFormat) (bytes : Bytes) : List UInt32 :=
  (blocks f.recordSize bytes).filterMap leadingWord?

def neighbours {α : Type} (l : List α) : List (α × α) := l.zip l.tail

def due (stride a : UInt32) : Nat := (a.toNat + stride.toNat) % 2 ^ 32

/-- Blocks lost between two neighbouring counters. A jump of 2^31 or more is a jump back. -/
def lost (stride a b : UInt32) : Nat :=
  let distance := (((b.toNat : Int) - a.toNat - stride.toNat) % 2 ^ 32).toNat
  if distance < 2 ^ 31 then distance / stride.toNat - 1 else 0

def judgePair (stride : UInt32) : UInt32 × UInt32 → Option Anomaly
  | (a, b) =>
      if b.toNat = due stride a then none
      else some (.discontinuity (.ofNat (due stride a)) b (lost stride a b))

def binaryReport (f : BinaryFormat) (bytes : Bytes) : Report :=
  .tally (counters f bytes).length ((neighbours (counters f bytes)).filterMap (judgePair f.stride))

theorem missedBlocks_eq_lost (stride a b : UInt32) :
    missedBlocks stride (a + stride) b = lost stride a b := by
  have distance : (b - (a + stride)).toNat =
      (((b.toNat : Int) - a.toNat - stride.toNat) % 2 ^ 32).toNat := by
    rw [UInt32.toNat_sub, UInt32.toNat_add]
    omega
  simp only [missedBlocks, lost, UInt32.lt_iff_toNat_lt, UInt32.toNat_div, distance]
  rfl

theorem discontinuity?_eq_judgePair (stride a b : UInt32) :
    discontinuity? stride (some a) b = judgePair stride (a, b) := by
  have sum : (a + stride).toNat = due stride a := UInt32.toNat_add a stride
  have equal : b = a + stride ↔ b.toNat = due stride a := by
    rw [← sum, UInt32.toNat_inj]
  have expected : UInt32.ofNat (due stride a) = a + stride := by
    rw [← sum, UInt32.ofNat_toNat]
  simp only [discontinuity?, judgePair, equal, expected, missedBlocks_eq_lost]

theorem judgePair_add (stride a : UInt32) : judgePair stride (a, a + stride) = none := by
  rw [← discontinuity?_eq_judgePair, discontinuity?, if_pos rfl]

theorem neighbours_append {α : Type} (front : List α) (a : α) (rest : List α) :
    neighbours (front ++ a :: rest) = neighbours (front ++ [a]) ++ neighbours (a :: rest) := by
  induction front with
  | nil => rfl
  | cons b front ih =>
      cases front with
      | nil => rfl
      | cons c front => simpa [neighbours] using ih

theorem length_neighbours {α : Type} (l : List α) : (neighbours l).length = l.length - 1 := by
  simp [neighbours]

theorem neighbours_concat {α : Type} (l : List α) (a : α) :
    neighbours (l ++ [a]) = neighbours l ++ neighbours (l.getLast?.toList ++ [a]) := by
  rcases List.eq_nil_or_concat l with rfl | ⟨front, b, rfl⟩
  · rfl
  · simpa using neighbours_append front b [a]

theorem neighbours_cons {α : Type} (a : α) (l : List α) :
    neighbours (a :: l) = neighbours (a :: l.head?.toList) ++ neighbours l := by
  cases l <;> rfl

theorem counters_nil (f : BinaryFormat) : counters f [] = [] := by
  rw [counters, blocks_nil, List.filterMap_nil]

theorem counters_short {f : BinaryFormat} {bytes : Bytes} (h : bytes.length < f.recordSize) :
    counters f bytes = (leadingWord? bytes).toList := by
  by_cases empty : bytes = []
  · subst empty
    rw [counters_nil]
    rfl
  · rw [counters, blocks_short empty (Nat.le_of_lt h)]
    cases word : leadingWord? bytes <;> simp [word]

theorem counters_record {f : BinaryFormat} {record rest : Bytes} {counter : UInt32}
    (positive : 0 < f.recordSize) (h : record.length = f.recordSize)
    (word : leadingWord? record = some counter) :
    counters f (record ++ rest) = counter :: counters f rest := by
  rw [counters, blocks_cons record rest positive h, List.filterMap_cons_some word, counters]

/-- The counter of the first record, if it has one, and then the counters of the rest. -/
theorem counters_first (valid : f.IsValid) (bytes : Bytes) :
    counters f bytes =
      (leadingWord? (bytes.take f.recordSize)).toList ++ counters f (bytes.drop f.recordSize) := by
  have positive := valid.positive
  by_cases few : bytes.length < f.recordSize
  · rw [List.take_of_length_le few.le, List.drop_of_length_le few.le, counters_nil,
      counters_short few, List.append_nil]
  · have size : (bytes.take f.recordSize).length = f.recordSize := by
      rw [List.length_take]
      omega
    have wide : (leadingWord? (bytes.take f.recordSize)).isSome := by
      rw [leadingWord?_isSome, size]
      exact valid.1
    obtain ⟨counter, word⟩ := Option.isSome_iff_exists.mp wide
    conv => lhs; rw [← List.take_append_drop f.recordSize bytes]
    rw [counters_record positive size word, word, Option.toList_some, List.singleton_append]

theorem counters_flatten {α : Type} {f : BinaryFormat} (room : counterSize ≤ f.recordSize)
    {record : α → Bytes} {counter : α → UInt32} (whole : ∀ a, (record a).length = f.recordSize)
    (word : ∀ a, leadingWord? (record a) = some (counter a)) (l : List α) :
    counters f (l.map record).flatten = l.map counter := by
  have positive : 0 < f.recordSize := Nat.lt_of_lt_of_le (by decide) room
  induction l with
  | nil => rw [List.map_nil, List.flatten_nil, counters_nil, List.map_nil]
  | cons a l ih =>
      rw [List.map_cons, List.flatten_cons, counters_record positive (whole a) (word a), ih,
        List.map_cons]

namespace BinaryChecker

/-- The checker with the given bytes held. -/
def hold (c : BinaryChecker) (bytes : Bytes) : BinaryChecker := { c with held := bytes.toArray }

/-- Cut bytes into blocks and go through them, beginning with a record. -/
def run (c : BinaryChecker) (bytes : Bytes) : BinaryChecker :=
  (blocks c.format.recordSize bytes).foldl scan (c.hold [])

@[simp] theorem hold_format (c : BinaryChecker) (bytes : Bytes) :
    (c.hold bytes).format = c.format := rfl

@[simp] theorem hold_hold (c : BinaryChecker) (a b : Bytes) : (c.hold a).hold b = c.hold b := rfl

@[simp] theorem examineRecord_format (c : BinaryChecker) (record : Bytes) :
    (c.examineRecord record).format = c.format := by
  simp only [examineRecord]
  cases leadingWord? record <;> rfl

theorem examineRecord_hold (c : BinaryChecker) (record bytes : Bytes) :
    (c.hold bytes).examineRecord record = (c.examineRecord record).hold bytes := by
  simp only [examineRecord]
  cases leadingWord? record <;> rfl

theorem keep_hold (c : BinaryChecker) (held bytes : Bytes) :
    (c.hold held).keep bytes = c.hold (held ++ bytes) := by
  have joined : held.toArray ++ bytes = (held ++ bytes).toArray := by
    apply Array.ext'
    rw [Array.toList_appendList]
  simp only [keep, hold, joined]

theorem scan_hold_nil (c : BinaryChecker) {block : Bytes}
    (h : block.length < c.format.recordSize) : (c.hold []).scan block = c.hold block := by
  rw [scan, hold_format, if_pos h, keep_hold, List.nil_append]

theorem run_short (c : BinaryChecker) {bytes : Bytes} (h : bytes.length < c.format.recordSize) :
    c.run bytes = c.hold bytes := by
  by_cases empty : bytes = []
  · subst empty
    rw [run, blocks_nil, List.foldl_nil]
  · rw [run, blocks_short empty (Nat.le_of_lt h), List.foldl_cons, List.foldl_nil,
      scan_hold_nil c h]

theorem run_record (c : BinaryChecker) (record rest : Bytes) (positive : 0 < c.format.recordSize)
    (h : record.length = c.format.recordSize) :
    c.run (record ++ rest) = (c.examineRecord record).run rest := by
  have whole : ¬record.length < (c.hold []).format.recordSize := by
    rw [hold_format]
    omega
  rw [run, blocks_cons record rest positive h, List.foldl_cons, scan, if_neg whole,
    examineRecord_hold, run, examineRecord_format]

theorem settle_hold (c : BinaryChecker) (record : Bytes) :
    (c.hold record).settle = (c.examineRecord record).hold [] := by
  change ((c.hold record).examineRecord record).hold [] = _
  rw [examineRecord_hold, hold_hold]

theorem topUp_hold (c : BinaryChecker) {held : Bytes} (chunk : Bytes) (some_held : held ≠ []) :
    (c.hold held).topUp chunk =
      let filled := held ++ chunk.take (c.format.recordSize - held.length)
      if filled.length < c.format.recordSize then (c.hold filled, [])
      else ((c.examineRecord filled).hold [], chunk.drop (c.format.recordSize - held.length)) := by
  have something : (c.hold held).held.isEmpty = false := by simpa [hold] using some_held
  have size (bytes : Bytes) : (c.hold bytes).held.size = bytes.length := rfl
  simp only [topUp, something, Bool.false_eq_true, if_false, hold_format, size, keep_hold,
    settle_hold]

/-- What is held goes before the chunk. -/
theorem feed_hold (c : BinaryChecker) {held : Bytes} (chunk : Bytes)
    (few : held.length < c.format.recordSize) :
    (c.hold held).feed chunk = c.run (held ++ chunk) := by
  by_cases some_held : held = []
  · subst some_held
    rfl
  · rw [feed, topUp_hold c chunk some_held]
    by_cases short : chunk.length < c.format.recordSize - held.length
    · have all : chunk.take (c.format.recordSize - held.length) = chunk :=
        List.take_of_length_le (Nat.le_of_lt short)
      have unfilled : (held ++ chunk).length < c.format.recordSize := by
        rw [List.length_append]
        omega
      simp only [all, unfilled, if_true, blocks_nil, List.foldl_nil, run_short c unfilled]
    · have whole : (held ++ chunk.take (c.format.recordSize - held.length)).length =
          c.format.recordSize := by
        rw [List.length_append, List.length_take]
        omega
      have filled : ¬(held ++ chunk.take (c.format.recordSize - held.length)).length <
          c.format.recordSize := by omega
      have positive : 0 < c.format.recordSize := by omega
      conv => rhs; rw [← List.take_append_drop (c.format.recordSize - held.length) chunk,
        ← List.append_assoc, run_record c _ _ positive whole]
      simp only [filled, if_false, run, hold_format, examineRecord_format]

/-- Feeding a chunk to a checker that went through some bytes is going through both. -/
theorem feed_run (size : Nat) (positive : 0 < size) (c : BinaryChecker)
    (h : c.format.recordSize = size) (a b : Bytes) : (c.run a).feed b = c.run (a ++ b) := by
  -- The size is fixed ahead of the induction, because the checker changes from record to record.
  induction a using block_induction positive generalizing c with
  | short a few =>
      subst h
      rw [run_short c few, feed_hold c b few]
  | block record rest whole ih =>
      subst h
      rw [run_record c record rest positive whole, List.append_assoc,
        run_record c record (rest ++ b) positive whole]
      exact ih (c.examineRecord record) (by rw [examineRecord_format])

theorem foldl_feed (chunks : List Bytes) (c : BinaryChecker) (a : Bytes)
    (positive : 0 < c.format.recordSize) :
    chunks.foldl feed (c.run a) = c.run (a ++ chunks.flatten) := by
  induction chunks generalizing a with
  | nil => rw [List.foldl_nil, List.flatten_nil, List.append_nil]
  | cons chunk chunks ih =>
      rw [List.foldl_cons, feed_run _ positive c rfl, ih, List.flatten_cons, List.append_assoc]

theorem examine_judged (c : BinaryChecker) (counter : UInt32) {records : Nat}
    {anomalies : List Anomaly} (h : c.report = .tally records anomalies) :
    (c.examine counter).report = .tally (records + 1) (anomalies ++
      (neighbours (c.previous.toList ++ [counter])).filterMap (judgePair c.format.stride)) := by
  have counted : c.journal.countRecord.report = .tally (records + 1) anomalies := by
    rw [Journal.report_countRecord, show c.journal.report = _ from h, Report.countRecord_tally]
  have found (previous : Option UInt32) :
      (neighbours (previous.toList ++ [counter])).filterMap (judgePair c.format.stride) =
        (discontinuity? c.format.stride previous counter).toList := by
    cases previous with
    | none => rfl
    | some previous =>
        rw [discontinuity?_eq_judgePair]
        cases judged : judgePair c.format.stride (previous, counter) <;> simp [neighbours, judged]
  rw [found]
  simp only [report, examine]
  cases discontinuity? c.format.stride c.previous counter with
  | none => rw [counted, Option.toList_none, List.append_nil]
  | some anomaly => rw [Journal.report_note, counted, Report.note_tally, Option.toList_some]

/-- What the end of the stream adds to a report that is complete up to a record. -/
theorem report_finish_run (size : Nat) (room : counterSize ≤ size) (c : BinaryChecker)
    (h : c.format.recordSize = size) (going : c.finished = false) (bytes : Bytes) {records : Nat}
    {anomalies : List Anomaly} (reported : c.report = .tally records anomalies) :
    (c.run bytes).finish.report = .tally (records + (counters c.format bytes).length)
      (anomalies ++ (neighbours (c.previous.toList ++ counters c.format bytes)).filterMap
        (judgePair c.format.stride)) := by
  have positive : 0 < size := Nat.lt_of_lt_of_le (by decide) room
  induction bytes using block_induction positive generalizing c records anomalies with
  | short bytes few =>
      subst h
      rw [run_short c few, counters_short few]
      have unfinished : ¬(c.hold bytes).finished = true := by
        rw [show (c.hold bytes).finished = false from going]
        decide
      have ended : (c.hold bytes).finish.report = (c.examineRecord bytes).report := by
        rw [finish, if_neg unfinished, settle_hold]
        rfl
      rw [ended, examineRecord]
      cases leadingWord? bytes with
      | none =>
          have alone : neighbours (c.previous.toList ++ []) = [] := by cases c.previous <;> rfl
          rw [Option.toList_none, alone, List.filterMap_nil, List.append_nil]
          exact reported
      | some counter => exact examine_judged c counter reported
  | block record rest whole ih =>
      subst h
      have wide : (leadingWord? record).isSome := by
        rw [leadingWord?_isSome, whole]
        exact room
      obtain ⟨counter, word⟩ := Option.isSome_iff_exists.mp wide
      have judged := examine_judged c counter reported
      rw [run_record c record rest positive whole, counters_record positive whole word,
        neighbours_append, List.filterMap_append, ← List.append_assoc, List.length_cons]
      have count : records + ((counters c.format rest).length + 1) =
          records + 1 + (counters c.format rest).length := by omega
      rw [examineRecord, word, count]
      exact ih (c.examine counter) rfl going judged

/-- A new checker goes through the chunks it is fed as through one run of bytes. -/
theorem foldl_feed_new {f : BinaryFormat} (valid : f.IsValid) (chunks : List Bytes) :
    chunks.foldl feed { format := f } = run { format := f } chunks.flatten := by
  have positive := valid.positive
  have short : ([] : Bytes).length < ({ format := f } : BinaryChecker).format.recordSize := positive
  have nothing : run { format := f } [] = { format := f } := run_short _ short
  have onward := foldl_feed chunks { format := f } [] positive
  rwa [nothing, List.nil_append] at onward

theorem report_chunks {f : BinaryFormat} (valid : f.IsValid) (chunks : List Bytes) :
    (chunks.foldl feed { format := f }).finish.report = binaryReport f chunks.flatten := by
  have nothing : ({ format := f } : BinaryChecker).report = .tally 0 [] := rfl
  rw [foldl_feed_new valid,
    report_finish_run f.recordSize valid.1 { format := f } rfl rfl _ nothing, Nat.zero_add]
  rfl

end BinaryChecker

theorem leadingWord?_take (bytes : Bytes) : leadingWord? (bytes.take 4) = leadingWord? bytes := by
  match bytes with
  | [] | [_] | [_, _] | [_, _, _] | _ :: _ :: _ :: _ :: _ => rfl

/-- Two streams of one length whose records have the same first four bytes. -/
def AgreeOnCounters (f : BinaryFormat) (a b : Bytes) : Prop :=
  a.length = b.length ∧ ∀ i, i % f.recordSize < 4 → a[i]? = b[i]?

theorem leadingWord?_congr {a b : Bytes} (same : ∀ i, i < 4 → a[i]? = b[i]?) :
    leadingWord? a = leadingWord? b := by
  have front : a.take 4 = b.take 4 := by
    apply List.ext_getElem?
    intro i
    rw [List.getElem?_take, List.getElem?_take]
    split
    · exact same i ‹_›
    · rfl
  rw [← leadingWord?_take a, ← leadingWord?_take b, front]

theorem counters_congr (f : BinaryFormat) (room : counterSize ≤ f.recordSize) (a b : Bytes)
    (agree : AgreeOnCounters f a b) : counters f a = counters f b := by
  have positive : 0 < f.recordSize := Nat.lt_of_lt_of_le (by decide) room
  have first (i : Nat) (hi : i < 4) : i % f.recordSize < 4 :=
    Nat.lt_of_le_of_lt (Nat.mod_le i f.recordSize) hi
  induction a using block_induction positive generalizing b with
  | short a few =>
      obtain ⟨length, same⟩ := agree
      rw [counters_short few, counters_short (length ▸ few)]
      congr 1
      apply leadingWord?_congr
      intro i hi
      exact same i (first i hi)
  | block record rest whole ih =>
      obtain ⟨length, same⟩ := agree
      have wide : (leadingWord? record).isSome := by
        rw [leadingWord?_isSome, whole]
        exact room
      obtain ⟨counter, word⟩ := Option.isSome_iff_exists.mp wide
      rw [List.length_append] at length
      have other : (b.take f.recordSize).length = f.recordSize := by
        rw [List.length_take]
        omega
      have otherWord : leadingWord? (b.take f.recordSize) = some counter := by
        rw [← word]
        apply leadingWord?_congr
        intro i hi
        have inside : i < f.recordSize := Nat.lt_of_lt_of_le hi room
        rw [List.getElem?_take_of_lt inside, ← same i (first i hi),
          List.getElem?_append_left (whole ▸ inside)]
      rw [← List.take_append_drop f.recordSize b, counters_record positive whole word,
        counters_record positive other otherWord]
      congr 1
      apply ih
      refine ⟨?_, ?_⟩
      · rw [List.length_drop]
        omega
      · intro i hi
        have shifted := same (f.recordSize + i) (by rwa [Nat.add_mod_left])
        rwa [← whole, List.getElem?_append_right (Nat.le_add_right _ i), Nat.add_sub_cancel_left,
          whole, ← List.getElem?_drop] at shifted

theorem length_judged (stride : UInt32) (pairs : List (UInt32 × UInt32)) :
    (pairs.filterMap (judgePair stride)).length =
      (pairs.map fun (a, b) => if b.toNat = due stride a then 0 else 1).sum := by
  induction pairs with
  | nil => rfl
  | cons pair pairs ih =>
      obtain ⟨a, b⟩ := pair
      rw [List.map_cons, List.sum_cons, ← ih]
      by_cases regular : b.toNat = due stride a
      · simp [judgePair, regular]
      · simp [judgePair, regular, Nat.add_comm]

theorem lost_of_regular {stride a b : UInt32} (h : b.toNat = due stride a) :
    lost stride a b = 0 := by
  have distance : (((b.toNat : Int) - a.toNat - stride.toNat) % 2 ^ 32).toNat = 0 := by
    rw [h, due]
    omega
  simp only [lost, distance, Nat.zero_div, Nat.zero_sub, ite_self]

theorem missedBlocks_judged (stride : UInt32) (pairs : List (UInt32 × UInt32)) :
    ((pairs.filterMap (judgePair stride)).map Anomaly.missedBlocks).sum =
      (pairs.map fun (a, b) => lost stride a b).sum := by
  induction pairs with
  | nil => rfl
  | cons pair pairs ih =>
      obtain ⟨a, b⟩ := pair
      rw [List.map_cons, List.sum_cons, ← ih]
      by_cases regular : b.toNat = due stride a
      · simp [judgePair, regular, lost_of_regular regular]
      · simp [judgePair, regular, Anomaly.missedBlocks]

theorem lost_le (stride a b : UInt32) : lost stride a b ≤ 2 ^ 31 - 2 := by
  have quotient := Nat.div_le_self (((b.toNat : Int) - a.toNat - stride.toNat) % 2 ^ 32).toNat
    stride.toNat
  simp only [lost]
  split <;> omega

theorem sum_lost_le (stride : UInt32) (pairs : List (UInt32 × UInt32)) :
    (pairs.map fun (a, b) => lost stride a b).sum ≤ pairs.length * (2 ^ 31 - 2) := by
  induction pairs with
  | nil => exact Nat.zero_le _
  | cons pair pairs ih =>
      rw [List.map_cons, List.sum_cons, List.length_cons, Nat.succ_mul, Nat.add_comm]
      exact Nat.add_le_add ih (lost_le stride pair.1 pair.2)

/-- It takes more than 2^33 records to lose so many blocks that they cannot be counted. -/
theorem missedBlocks_judged_lt (stride : UInt32) {counters : List UInt32}
    (few : counters.length ≤ 2 ^ 33) :
    (((neighbours counters).filterMap (judgePair stride)).map Anomaly.missedBlocks).sum <
      2 ^ 64 := by
  have pairs := length_neighbours counters
  have most := sum_lost_le stride (neighbours counters)
  rw [missedBlocks_judged]
  omega

theorem judged_discontinuity {stride : UInt32} {pairs : List (UInt32 × UInt32)} {anomaly : Anomaly}
    (h : anomaly ∈ pairs.filterMap (judgePair stride)) :
    ∃ expected got missed, anomaly = .discontinuity expected got missed := by
  obtain ⟨⟨a, b⟩, -, judged⟩ := List.mem_filterMap.mp h
  simp only [judgePair] at judged
  split at judged
  · contradiction
  · cases judged
    exact ⟨_, _, _, rfl⟩

theorem countP_judged (stride : UInt32) (pairs : List (UInt32 × UInt32)) {kind : Anomaly → Bool}
    (other : ∀ expected got missed, kind (.discontinuity expected got missed) = false) :
    (pairs.filterMap (judgePair stride)).countP kind = 0 := by
  rw [List.countP_eq_zero]
  intro anomaly member
  obtain ⟨expected, got, missed, rfl⟩ := judged_discontinuity member
  simp [other]

/-- However a binary stream is cut into chunks, the checker reports what the reference reports on
the whole. Errors and missed blocks are sums over neighbouring counters. Missed blocks are counted
modulo 2^64; with no more than 2^33 records they are the sum itself. -/
theorem binary_report_eq_reference (f : BinaryFormat) (valid : f.IsValid) (chunks : List Bytes) :
    let report := (chunks.foldl BinaryChecker.feed { format := f }).finish.report
    let pairs := neighbours (counters f chunks.flatten)
    let missed := (pairs.map fun (a, b) => lost f.stride a b).sum
    (f.recordSize ≤ memoryLimit → BinaryChecker.ofFormat f = .ok { format := f }) ∧
      report = binaryReport f chunks.flatten ∧
      report.records = (counters f chunks.flatten).length ∧
      report.errors = (pairs.map fun (a, b) => if b.toNat = due f.stride a then 0 else 1).sum ∧
      report.missedBlocks = missed % 2 ^ 64 ∧
      (report.records ≤ 2 ^ 33 → report.missedBlocks = missed) ∧
      report.skips = 0 ∧ report.mismatches = 0 ∧ report.malformed = 0 ∧
      ∀ others : List Bytes, AgreeOnCounters f others.flatten chunks.flatten →
        (others.foldl BinaryChecker.feed { format := f }).finish.report = report := by
  intro report pairs missed
  have total : report = binaryReport f chunks.flatten := BinaryChecker.report_chunks valid chunks
  have judged : ((pairs.filterMap (judgePair f.stride)).map Anomaly.missedBlocks).sum = missed :=
    missedBlocks_judged f.stride pairs
  refine ⟨?_, total, ?_, ?_, ?_, ?_, ?_, ?_, ?_, ?_⟩
  · intro fits
    rw [BinaryChecker.ofFormat, if_neg fun invalid => invalid valid, if_neg (Nat.not_lt.mpr fits)]
  · rw [total]
    rfl
  · rw [total]
    exact length_judged f.stride pairs
  · rw [total, binaryReport, Report.missedBlocks_tally, judged]
  · intro few
    rw [total] at few
    have fits := missedBlocks_judged_lt f.stride few
    rw [total, binaryReport, Report.missedBlocks_tally_of_lt fits, judged]
  · rw [total]
    exact countP_judged f.stride pairs fun _ _ _ => rfl
  · rw [total]
    exact countP_judged f.stride pairs fun _ _ _ => rfl
  · rw [total]
    exact countP_judged f.stride pairs fun _ _ _ => rfl
  · intro others agree
    rw [BinaryChecker.report_chunks valid, total, binaryReport,
      counters_congr f valid.1 _ _ agree, binaryReport]

/-- Three records of five bytes, the last one short, cut in the middle; two counters are missing. -/
theorem split_records_report :
    let f : BinaryFormat := ⟨5, 1⟩
    let chunks : List Bytes := [[0, 0], [0, 0, 9, 1, 0, 0, 0], [], [9, 4, 0, 0, 0]]
    f.IsValid ∧
      (chunks.foldl BinaryChecker.feed { format := f }).finish.report =
        binaryReport f chunks.flatten ∧
      binaryReport f chunks.flatten =
        { records := 3, errors := 1, missed := 1
          diagnostics := [.discontinuity 2 4 1] } := by
  have valid : (⟨5, 1⟩ : BinaryFormat).IsValid := by decide
  refine ⟨valid, (binary_report_eq_reference ⟨5, 1⟩ valid _).2.1, ?_⟩
  have read : counters ⟨5, 1⟩ [0, 0, 0, 0, 9, 1, 0, 0, 0, 9, 4, 0, 0, 0] = [0, 1, 4] := by
    simp [counters, blocks, leadingWord?]
  change Report.tally _ _ = _
  simp only [List.flatten_cons, List.flatten_nil, List.cons_append, List.nil_append, read]
  decide

end BulkStream.Integrity
