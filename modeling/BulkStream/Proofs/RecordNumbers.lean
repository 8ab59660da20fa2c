import Mathlib.Data.List.Range
import BulkStream.Proofs.RecordStream

/-!
The numbers of the records that a source emits. They grow by one from record to record, and by two
where a record is dropped; so the number of a record tells how many were dropped before it. Reading
as many bytes as some records have gives exactly these records.
-/
namespace BulkStream.Peripheral

open Integrity

variable {dropEvery : Option Nat}

/-- How many records are dropped before the last of so many that are emitted. -/
def dropped (dropEvery : Option Nat) (count : Nat) : Nat :=
  match dropEvery with
  | none => 0
  | some n => (count - 1) / (n - 1)

/-- The record after the one emitted as the `i`-th is dropped. -/
def Lapse (dropEvery : Option Nat) (i : Nat) : Prop :=
  number dropEvery (i + 1) ≠ number dropEvery i + 1

instance (dropEvery : Option Nat) (i : Nat) : Decidable (Lapse dropEvery i) := by
  unfold Lapse
  infer_instance

/-- Of `count` records from the `i`-th on, those before a lapse. -/
def lapses (dropEvery : Option Nat) (i count : Nat) : List Nat :=
  (List.range' i count).filter (Lapse dropEvery ·)

theorem number_of_lapse {i : Nat} (h : Lapse dropEvery i) :
    number dropEvery (i + 1) = number dropEvery i + 2 := by
  cases dropEvery with
  | none => simp [Lapse, number, successor] at h
  | some n =>
      by_cases due : 0 < n ∧ (number (some n) i + 2) % n = 0
      · simp [number, successor, due]
      · simp [Lapse, number, successor, due] at h

/-- Each lapse moves the numbers ahead of the count by one. -/
theorem number_add (dropEvery : Option Nat) (i count : Nat) :
    number dropEvery (i + count) =
      number dropEvery i + count + (lapses dropEvery i count).length := by
  induction count generalizing i with
  | zero => simp [lapses]
  | succ count ih =>
      have onward := ih (i + 1)
      rw [lapses, List.range'_succ, List.filter_cons, ← lapses, Nat.add_comm count, ← Nat.add_assoc,
        onward]
      by_cases lapse : Lapse dropEvery i
      · simp [lapse, number_of_lapse lapse]
        omega
      · have regular : number dropEvery (i + 1) = number dropEvery i + 1 := not_not.mp lapse
        simp [lapse, regular]
        omega

theorem number_none (i : Nat) : number none i = i := by
  induction i with
  | zero => rfl
  | succ i ih => simp [number, successor, ih]

/-- With every `m + 1`-th record dropped there are `m` records from one gap to the next. -/
theorem number_some {m : Nat} (positive : 0 < m) (i : Nat) : number (some (m + 1)) i = i + i / m := by
  induction i with
  | zero => simp [number]
  | succ i ih =>
      have split : m * (i / m) + i % m = i := Nat.div_add_mod i m
      have below : i % m < m := Nat.mod_lt i positive
      have cycle : (i + i / m + 2) % (m + 1) = (i % m + 2) % (m + 1) := by
        have whole : i + i / m + 2 = i % m + 2 + (m + 1) * (i / m) := by
          rw [Nat.add_mul, Nat.one_mul]
          omega
        rw [whole, Nat.add_mul_mod_self_left]
      rw [number, ih, successor]
      by_cases last : i % m + 1 = m
      · have due : (i + i / m + 2) % (m + 1) = 0 := by
          rw [cycle, show i % m + 2 = m + 1 by omega, Nat.mod_self]
        have next : (i + 1) / m = i / m + 1 := by
          have whole : i + 1 = m * (i / m + 1) := by
            rw [Nat.mul_add, Nat.mul_one]
            omega
          rw [whole, Nat.mul_div_cancel_left _ positive]
        simp only [due, Nat.succ_pos, and_self, if_true, next]
        omega
      · have free : (i + i / m + 2) % (m + 1) ≠ 0 := by
          rw [cycle, Nat.mod_eq_of_lt (by omega)]
          omega
        have same : (i + 1) / m = i / m := by
          have part : i + 1 = m * (i / m) + (i % m + 1) := by omega
          have less : (i % m + 1) / m = 0 := Nat.div_eq_of_lt (by omega)
          rw [part, Nat.mul_add_div positive, less, Nat.add_zero]
        simp only [free, and_false, if_false, same]
        omega

theorem number_some_zero (i : Nat) : number (some 0) i = i := by
  induction i with
  | zero => rfl
  | succ i ih => simp [number, successor, ih]

theorem number_some_one (i : Nat) : number (some 1) i = 2 * i := by
  induction i with
  | zero => rfl
  | succ i ih =>
      simp only [number, successor, Nat.mod_one, Nat.zero_lt_one, and_self, if_true, ih]
      omega

/-- The number of the record emitted as the `k`-th, counted from zero. -/
def numberAt (dropEvery : Option Nat) (k : Nat) : Nat :=
  match dropEvery with
  | none => k
  | some n => if n = 0 then k else if n = 1 then 2 * k else k + k / (n - 1)

theorem number_eq_numberAt (dropEvery : Option Nat) (k : Nat) :
    number dropEvery k = numberAt dropEvery k := by
  match dropEvery with
  | none => exact number_none k
  | some 0 => exact number_some_zero k
  | some 1 => exact number_some_one k
  | some (m + 2) => exact number_some (Nat.succ_pos m) k

/-- The numbers that are left out are those before a multiple of the drop setting. -/
theorem numberAt_omits_iff {n : Nat} (sparse : 2 ≤ n) (i : Nat) :
    (∀ k, numberAt (some n) k ≠ i) ↔ n ∣ i + 1 := by
  obtain ⟨m, rfl⟩ : ∃ m, n = m + 1 := ⟨n - 1, by omega⟩
  have positive : 0 < m := by omega
  have closed (k : Nat) : numberAt (some (m + 1)) k = k + k / m := by
    rw [← number_eq_numberAt, number_some positive]
  simp only [closed]
  constructor
  · intro omitted
    -- Were `i + 1` no multiple, the record numbered `i` would have this place.
    by_contra part
    have split : (m + 1) * ((i + 1) / (m + 1)) + (i + 1) % (m + 1) = i + 1 := Nat.div_add_mod ..
    have below : (i + 1) % (m + 1) < m + 1 := Nat.mod_lt _ (Nat.succ_pos m)
    have rest : (i + 1) % (m + 1) ≠ 0 := fun none => part (Nat.dvd_of_mod_eq_zero none)
    generalize (i + 1) / (m + 1) = q, (i + 1) % (m + 1) = r at split below rest
    apply omitted (m * q + (r - 1))
    have turns : (m * q + (r - 1)) / m = q := by
      rw [Nat.mul_add_div positive, Nat.div_eq_of_lt (by omega), Nat.add_zero]
    rw [turns]
    rw [Nat.succ_mul] at split
    omega
  · rintro whole k rfl
    have split : m * (k / m) + k % m = k := Nat.div_add_mod ..
    have below : k % m < m := Nat.mod_lt k positive
    have shape : k + k / m + 1 = (m + 1) * (k / m) + (k % m + 1) := by
      rw [Nat.succ_mul]
      omega
    rw [shape, Nat.dvd_add_right (Nat.dvd_mul_right ..)] at whole
    exact absurd (Nat.le_of_dvd (Nat.succ_pos _) whole) (by omega)

/-- The number of the last of `count` records, counted from zero. -/
theorem number_eq_add_dropped (sparse : ∀ n ∈ dropEvery, 2 ≤ n) (count : Nat) :
    number dropEvery (count - 1) = count - 1 + dropped dropEvery count := by
  cases dropEvery with
  | none => rw [number_none, dropped, Nat.add_zero]
  | some n =>
      obtain ⟨m, rfl⟩ : ∃ m, n = m + 1 := ⟨n - 1, by have := sparse n rfl; omega⟩
      have positive : 0 < m := by have := sparse (m + 1) rfl; omega
      rw [number_some positive, dropped, Nat.add_sub_cancel]

theorem length_lapses (sparse : ∀ n ∈ dropEvery, 2 ≤ n) (count : Nat) :
    (lapses dropEvery 0 (count - 1)).length = dropped dropEvery count := by
  have numbers := number_add dropEvery 0 (count - 1)
  rw [Nat.zero_add, number_eq_add_dropped sparse] at numbers
  simp only [number] at numbers
  omega

/-! The bytes of whole records. -/

variable {pattern : RecordFormat}

/-- Bytes of the record that is emitted as the `i`-th. -/
def emitted (pattern : RecordFormat) (dropEvery : Option Nat) (i : Nat) : Bytes :=
  (record pattern (number dropEvery i)).toBytes

theorem length_emitted (pattern : RecordFormat) (dropEvery : Option Nat) (i : Nat) :
    (emitted pattern dropEvery i).length = recordSize pattern :=
  length_record pattern _

theorem emission_eq_flatten (pattern : RecordFormat) (dropEvery : Option Nat) (count : Nat) :
    emission pattern dropEvery count =
      ((List.range' 0 count).map (emitted pattern dropEvery)).flatten := by
  induction count with
  | zero => rfl
  | succ count ih =>
      simp [emission, ih, List.range'_1_concat, emitted]

theorem length_emission (pattern : RecordFormat) (dropEvery : Option Nat) (count : Nat) :
    (emission pattern dropEvery count).length = count * recordSize pattern := by
  induction count with
  | zero => simp [emission]
  | succ count ih => rw [emission, List.length_append, ih, length_record, Nat.succ_mul]

theorem emission_front (pattern : RecordFormat) (dropEvery : Option Nat) {a b : Nat} (h : a ≤ b) :
    emission pattern dropEvery a <+: emission pattern dropEvery b := by
  induction h with
  | refl => exact List.prefix_rfl
  | step _ ih => exact ih.trans (List.prefix_append _ _)

theorem emission_eq_flatMap (pattern : RecordFormat) (dropEvery : Option Nat) (count : Nat) :
    emission pattern dropEvery count =
      (List.range count).flatMap fun k => (record pattern (numberAt dropEvery k)).toBytes := by
  have same : emitted pattern dropEvery = fun k => (record pattern (numberAt dropEvery k)).toBytes := by
    funext k
    rw [emitted, number_eq_numberAt]
  rw [emission_eq_flatten, same, List.range_eq_range', List.flatMap_def]

/-- Each record has its place. -/
theorem emission_place {k count : Nat} (within : k < count) :
    ((emission pattern dropEvery count).drop (k * recordSize pattern)).take (recordSize pattern) =
      (record pattern (numberAt dropEvery k)).toBytes := by
  obtain ⟨later, split⟩ := emission_front pattern dropEvery (Nat.succ_le_of_lt within)
  rw [← split, emission, List.append_assoc, ← number_eq_numberAt,
    List.drop_left' (length_emission ..), List.take_left' (length_record ..)]

/-- Bytes read at the start are the front of the records, however few records reach that far. -/
theorem read_front (whole : 0 < recordSize pattern) {n count : Nat}
    (reaches : n ≤ count * recordSize pattern) :
    ((RecordSource.start pattern dropEvery).read n).1 = (emission pattern dropEvery count).take n := by
  have read := (RecordSource.emitted_start pattern dropEvery).read whole n
  obtain ⟨more, front⟩ := read.prefix_emission
  rw [List.nil_append] at front
  have length := RecordSource.length_read n (RecordSource.start pattern dropEvery)
  have here := front.trans (emission_front pattern dropEvery (Nat.le_max_left more count))
  have there := emission_front pattern dropEvery (Nat.le_max_right more count)
  have within : ((RecordSource.start pattern dropEvery).read n).1 <+:
      emission pattern dropEvery count := by
    apply List.prefix_of_prefix_length_le here there
    rw [length, length_emission]
    exact reaches
  rw [List.prefix_iff_eq_take, length] at within
  exact within

theorem read_emission (whole : 0 < recordSize pattern) (count : Nat) :
    ((RecordSource.start pattern dropEvery).read (count * recordSize pattern)).1 =
      emission pattern dropEvery count := by
  rw [read_front whole (Nat.le_refl _), List.take_of_length_le (length_emission _ _ _).le]

end BulkStream.Peripheral
