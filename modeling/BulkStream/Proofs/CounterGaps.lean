import Mathlib.Data.List.Range
import BulkStream.Proofs.BinaryReference

/-!
Records whose counters run through an arithmetic progression modulo 2^32, of which some stretches are
lost. Where the records on both sides of a stretch are kept, the checker finds it as one error and
misses one block less than there are records in it, wherever the counter wraps.
-/
namespace BulkStream.Integrity

/-- Records lost in a row: the place of the first among all records, and how many they are. -/
structure Gap where
  first : Nat
  length : Nat
deriving DecidableEq, Repr

/-- The place of the record that follows the gap. -/
def Gap.next (g : Gap) : Nat := g.first + g.length

def Lost (gaps : List Gap) (i : Nat) : Prop := ∃ g ∈ gaps, g.first ≤ i ∧ i < g.next

instance (gaps : List Gap) : DecidablePred (Lost gaps) := fun i => by
  unfold Lost
  infer_instance

/-- Gaps in their order, with a record or more between any two, before the first and after the last of
`count` records. -/
structure Separate (gaps : List Gap) (count : Nat) : Prop where
  apart : gaps.Pairwise fun g h => g.next < h.first
  inside : ∀ g ∈ gaps, 0 < g.first ∧ 0 < g.length ∧ g.next < count

/-- The places of the records that are left. -/
def remaining (gaps : List Gap) (count : Nat) : List Nat :=
  (List.range count).filter fun i => ¬Lost gaps i

/-! Where one place does not follow the other. -/

def jumps (places : List Nat) : List (Nat × Nat) :=
  (neighbours places).filter fun (i, j) => j ≠ i + 1

theorem jumps_cons_cons (i j : Nat) (places : List Nat) :
    jumps (i :: j :: places) =
      if j = i + 1 then jumps (j :: places) else (i, j) :: jumps (j :: places) := by
  rw [jumps, neighbours, List.tail_cons, List.zip_cons_cons, List.filter_cons]
  by_cases regular : j = i + 1 <;> simp [regular, jumps, neighbours]

/-- Of a run of places only the last is left to jump from. -/
theorem jumps_run (i count : Nat) (places : List Nat) :
    jumps (List.range' i (count + 1) ++ places) = jumps ((i + count) :: places) := by
  induction count generalizing i with
  | zero => rfl
  | succ count ih =>
      have onward := ih (i + 1)
      rw [List.range'_succ, List.cons_append] at onward
      rw [List.range'_succ, List.range'_succ, List.cons_append, List.cons_append, jumps_cons_cons,
        if_pos rfl, onward]
      congr 2
      omega

theorem lost_cons (g : Gap) (gaps : List Gap) (i : Nat) :
    Lost (g :: gaps) i ↔ (g.first ≤ i ∧ i < g.next) ∨ Lost gaps i := by
  simp [Lost]

/-- From a place before the first gap on: a run up to the gap, and what is left after it. -/
theorem filter_gap {g : Gap} {gaps : List Gap} {i count : Nat} (before : i ≤ g.first)
    (within : g.next ≤ i + count) (behind : ∀ h ∈ gaps, g.next < h.first) :
    ((List.range' i count).filter fun j => ¬Lost (g :: gaps) j) =
      List.range' i (g.first - i) ++
        (List.range' g.next (i + count - g.next)).filter fun j => ¬Lost gaps j := by
  have next : g.next = g.first + g.length := rfl
  have split : List.range' i count = List.range' i (g.first - i) ++
      (List.range' g.first g.length ++ List.range' g.next (i + count - g.next)) := by
    rw [next, List.range'_append_1]
    have first : g.first = i + (g.first - i) := by omega
    conv => rhs; arg 2; rw [first]
    rw [List.range'_append_1]
    congr 1
    omega
  have run : (List.range' i (g.first - i)).filter (fun j => ¬Lost (g :: gaps) j) =
      List.range' i (g.first - i) := by
    rw [List.filter_eq_self]
    intro j member
    have inside := List.mem_range'_1.mp member
    apply decide_eq_true
    rintro ⟨h, lost, low, -⟩
    rcases List.mem_cons.mp lost with rfl | later
    · omega
    · have := behind h later
      omega
  have nothing : (List.range' g.first g.length).filter (fun j => ¬Lost (g :: gaps) j) = [] := by
    rw [List.filter_eq_nil_iff]
    intro j member
    have inside := List.mem_range'_1.mp member
    simp [lost_cons, next, inside]
  rw [split, List.filter_append, List.filter_append, run, nothing, List.nil_append]
  congr 1
  apply List.filter_congr
  intro j member
  have inside := List.mem_range'_1.mp member
  have past : ¬j < g.next := by omega
  simp [lost_cons, past]

/-- The records on both sides of each gap are left, and elsewhere they follow each other. -/
theorem jumps_filter {gaps : List Gap} (apart : gaps.Pairwise fun g h => g.next < h.first)
    {i count : Nat} (inside : ∀ g ∈ gaps, i < g.first ∧ 0 < g.length ∧ g.next < i + count) :
    jumps ((List.range' i count).filter fun j => ¬Lost gaps j) =
      gaps.map fun g => (g.first - 1, g.next) := by
  induction gaps generalizing i count with
  | nil =>
      have all : ((List.range' i count).filter fun j => ¬Lost [] j) = List.range' i count := by
        rw [List.filter_eq_self]
        simp [Lost]
      rw [all]
      cases count with
      | zero => rfl
      | succ count =>
          rw [← List.append_nil (List.range' i (count + 1)), jumps_run]
          rfl
  | cons g gaps ih =>
      obtain ⟨before, some_lost, within⟩ := inside g List.mem_cons_self
      have behind : ∀ h ∈ gaps, g.next < h.first := fun h => List.rel_of_pairwise_cons apart
      have later : ∀ h ∈ gaps, g.next < h.first ∧ 0 < h.length ∧
          h.next < g.next + (i + count - g.next) := by
        intro h member
        obtain ⟨-, some_lost, within⟩ := inside h (List.mem_cons_of_mem g member)
        exact ⟨behind h member, some_lost, by omega⟩
      have onward := ih apart.of_cons later
      rw [filter_gap before.le within.le behind, List.map_cons, ← onward]
      have kept : ¬Lost gaps g.next := by
        rintro ⟨h, member, low, -⟩
        have := behind h member
        omega
      obtain ⟨tail, starts⟩ : ∃ tail, ((List.range' g.next (i + count - g.next)).filter
          fun j => ¬Lost gaps j) = g.next :: tail := by
        obtain ⟨more, some_left⟩ : ∃ n, i + count - g.next = n + 1 :=
          ⟨i + count - g.next - 1, by omega⟩
        rw [some_left, List.range'_succ, List.filter_cons, if_pos (decide_eq_true kept)]
        exact ⟨_, rfl⟩
      obtain ⟨run, long⟩ : ∃ n, g.first - i = n + 1 := ⟨g.first - i - 1, by omega⟩
      have jump : g.next ≠ i + run + 1 := by
        rw [Gap.next]
        omega
      rw [starts, long, jumps_run, jumps_cons_cons, if_neg jump]
      congr 2
      omega

/-! What the checker makes of two counters of the progression. -/

/-- The counter of the record at a place, before any are lost. -/
def progression (stride start : UInt32) (i : Nat) : UInt32 := start + .ofNat i * stride

theorem judgePair_next (stride start : UInt32) (i : Nat) :
    judgePair stride (progression stride start i, progression stride start (i + 1)) = none := by
  have next : progression stride start (i + 1) = progression stride start i + stride := by
    rw [progression, progression, UInt32.ofNat_add]
    grind
  rw [next, judgePair_add]

/-- What is found of a gap. -/
def Gap.anomaly (stride start : UInt32) (g : Gap) : Anomaly :=
  .discontinuity (progression stride start g.first) (progression stride start g.next) (g.length - 1)

theorem judgePair_gap {stride : UInt32} (advances : 0 < stride) (start : UInt32) {g : Gap}
    (before : 0 < g.first) (some_lost : 0 < g.length)
    (short : g.length * stride.toNat < 2 ^ 31) :
    judgePair stride (progression stride start (g.first - 1), progression stride start g.next) =
      some (g.anomaly stride start) := by
  have positive : 0 < stride.toNat := UInt32.lt_iff_toNat_lt.mp advances
  have expected : progression stride start (g.first - 1) + stride = progression stride start g.first := by
    obtain ⟨i, at_i⟩ : ∃ i, g.first = i + 1 := ⟨g.first - 1, by omega⟩
    rw [at_i, Nat.add_sub_cancel, progression, progression, UInt32.ofNat_add]
    grind
  have distance : (progression stride start g.next - progression stride start g.first).toNat =
      g.length * stride.toNat := by
    have jump : progression stride start g.next - progression stride start g.first =
        .ofNat g.length * stride := by
      rw [progression, progression, Gap.next, UInt32.ofNat_add]
      grind
    rw [jump, UInt32.toNat_mul, UInt32.toNat_ofNat', Nat.mod_mul_mod, Nat.mod_eq_of_lt (by omega)]
  have apart : progression stride start g.next ≠ progression stride start g.first := by
    intro same
    rw [same, UInt32.sub_self] at distance
    have := Nat.mul_pos some_lost positive
    simp at distance
    omega
  have missed : missedBlocks stride (progression stride start g.first) (progression stride start g.next) =
      g.length - 1 := by
    have forward : progression stride start g.next - progression stride start g.first < 0x80000000 := by
      rw [UInt32.lt_iff_toNat_lt, distance]
      exact short
    rw [missedBlocks, if_pos forward, UInt32.toNat_div, distance, Nat.mul_div_cancel _ positive]
  rw [← discontinuity?_eq_judgePair, discontinuity?, expected, if_neg apart, missed, Gap.anomaly]

theorem judged_jumps (stride start : UInt32) (places : List Nat) :
    (neighbours (places.map (progression stride start))).filterMap (judgePair stride) =
      (jumps places).filterMap fun (i, j) =>
        judgePair stride (progression stride start i, progression stride start j) := by
  rw [neighbours, ← List.map_tail, List.zip_map, List.filterMap_map, jumps, List.filterMap_filter,
    ← neighbours]
  apply List.filterMap_congr
  rintro ⟨i, j⟩ -
  by_cases regular : j = i + 1
  · simp [regular, judgePair_next]
  · simp [regular]

/-- With gaps that are short enough for their jumps to count as forward, there is one anomaly for
each, and no other. -/
theorem judged_remaining {stride start : UInt32} (advances : 0 < stride) {gaps : List Gap}
    {count : Nat} (separate : Separate gaps count)
    (short : ∀ g ∈ gaps, g.length * stride.toNat < 2 ^ 31) :
    (neighbours ((remaining gaps count).map (progression stride start))).filterMap
      (judgePair stride) = gaps.map (Gap.anomaly stride start) := by
  have inside : ∀ g ∈ gaps, 0 < g.first ∧ 0 < g.length ∧ g.next < 0 + count := by
    rw [Nat.zero_add]
    exact separate.inside
  rw [judged_jumps, remaining, List.range_eq_range', jumps_filter separate.apart inside,
    List.filterMap_map, ← List.filterMap_eq_map]
  apply List.filterMap_congr
  intro g member
  obtain ⟨before, some_lost, -⟩ := separate.inside g member
  exact judgePair_gap advances start before some_lost (short g member)

/-- Of records whose counters run through a progression, with separate stretches lost, the checker
finds each stretch as one error and misses one block less than it has records. Where the counters
wrap, what else the records hold and how they are cut into chunks does not matter. Missed blocks are
counted modulo 2^64; with no more than 2^33 records left they are all counted. -/
theorem gaps_counted (format : BinaryFormat) (valid : format.IsValid) (start : UInt32) (count : Nat)
    (gaps : List Gap) (separate : Separate gaps count)
    (short : ∀ g ∈ gaps, g.length * format.stride.toNat < 2 ^ 31) (others : Nat → Bytes)
    (padded : ∀ i, 4 + (others i).length = format.recordSize) (chunks : List Bytes)
    (whole : chunks.flatten = ((remaining gaps count).map fun i =>
      wordBytes (start + .ofNat i * format.stride) ++ others i).flatten) :
    let report := (chunks.foldl BinaryChecker.feed { format }).finish.report
    let missed := (gaps.map fun g => g.length - 1).sum
    report.records = (remaining gaps count).length ∧ report.errors = gaps.length ∧
      report.missedBlocks = missed % 2 ^ 64 ∧
      (report.records ≤ 2 ^ 33 → report.missedBlocks = missed) := by
  intro report missed
  have read : counters format chunks.flatten =
      (remaining gaps count).map (progression format.stride start) := by
    rw [whole]
    refine counters_flatten valid.1 (fun i => ?_) (fun i => ?_) (remaining gaps count)
    · rw [← padded i, List.length_append]
      rfl
    · exact leadingWord?_wordBytes_append _ (others i)
  have judged :
      (neighbours ((remaining gaps count).map (progression format.stride start))).filterMap
        (judgePair format.stride) = gaps.map (Gap.anomaly format.stride start) :=
    judged_remaining valid.2 separate short
  have reported : report = .tally (remaining gaps count).length
      (gaps.map (Gap.anomaly format.stride start)) := by
    change (chunks.foldl BinaryChecker.feed { format }).finish.report = _
    rw [BinaryChecker.report_chunks valid, binaryReport, read, List.length_map, judged]
  have lost : ((gaps.map (Gap.anomaly format.stride start)).map Anomaly.missedBlocks).sum =
      missed := by
    rw [List.map_map]
    rfl
  rw [reported]
  refine ⟨rfl, List.length_map _, ?_, ?_⟩
  · rw [Report.missedBlocks_tally, lost]
  · intro few
    have left : ((remaining gaps count).map (progression format.stride start)).length ≤ 2 ^ 33 := by
      rwa [List.length_map]
    have fits := missedBlocks_judged_lt format.stride left
    rw [judged] at fits
    rw [Report.missedBlocks_tally_of_lt fits, lost]

/-- The counter wraps in the first of two gaps, and the records are cut in the middle. -/
theorem wrapping_gaps_counted :
    let format : BinaryFormat := ⟨5, 0x10000000⟩
    let gaps : List Gap := [⟨1, 2⟩, ⟨4, 1⟩]
    let records := ((remaining gaps 6).map fun i =>
      wordBytes (0xf0000000 + .ofNat i * format.stride) ++ [0xaa]).flatten
    let report :=
      ([records.take 7, [], records.drop 7].foldl BinaryChecker.feed { format }).finish.report
    remaining gaps 6 = [0, 3, 5] ∧ report.errors = 2 ∧ report.missedBlocks = 1 := by
  intro format gaps records report
  have separate : Separate gaps 6 := ⟨by decide, by decide⟩
  have short : ∀ g ∈ gaps, g.length * format.stride.toNat < 2 ^ 31 := by decide
  have whole : [records.take 7, [], records.drop 7].flatten = records := by simp
  obtain ⟨-, errors, missed, -⟩ := gaps_counted format (by decide) 0xf0000000 6 gaps separate short
    (fun _ => [0xaa]) (fun _ => rfl) _ whole
  exact ⟨by decide, errors, missed⟩

end BulkStream.Integrity
