import BulkStream.Peripheral.Record

/-!
What a record source emits. The bytes read from it so far, followed by the rest of the record it is
in, are the records up to that one; so whatever is read, in pieces of any size, is the beginning of
all records in order.
-/
namespace BulkStream.Peripheral

open Integrity

/-- Numbers of the records that are emitted, in order. -/
def number (dropEvery : Option Nat) : Nat → Nat
  | 0 => 0
  | i + 1 => successor dropEvery (number dropEvery i)

/-- The first `count` records emitted. -/
def emission (pattern : RecordFormat) (dropEvery : Option Nat) : Nat → Bytes
  | 0 => []
  | count + 1 =>
      emission pattern dropEvery count ++ (record pattern (number dropEvery count)).toBytes

namespace RecordSource

theorem readOnto_push (n : Nat) (s : RecordSource) (read : Array UInt8) :
    (readOnto n s read).1.toList = read.toList ++ (s.read n).1 ∧
      (readOnto n s read).2 = (s.read n).2 := by
  induction n generalizing s read with
  | zero => exact ⟨(List.append_nil _).symm, rfl⟩
  | succ n ih =>
      have here := ih s.next.2 (read.push s.next.1)
      have fresh := ih s.next.2 (#[].push s.next.1)
      simp only [RecordSource.read, readOnto] at here fresh ⊢
      rw [here.1, here.2, fresh.1, fresh.2]
      simp

theorem read_zero (s : RecordSource) : s.read 0 = ([], s) := rfl

theorem read_succ (n : Nat) (s : RecordSource) :
    s.read (n + 1) = (s.next.1 :: (s.next.2.read n).1, (s.next.2.read n).2) := by
  have pushed := readOnto_push n s.next.2 (#[].push s.next.1)
  simp only [read, readOnto]
  refine Prod.ext ?_ pushed.2
  exact pushed.1.trans (by simp [RecordSource.read])

theorem length_read (n : Nat) (s : RecordSource) : (s.read n).1.length = n := by
  induction n generalizing s with
  | zero => rfl
  | succ n ih => rw [read_succ, List.length_cons, ih]

theorem read_add (a b : Nat) (s : RecordSource) :
    s.read (a + b) = ((s.read a).1 ++ ((s.read a).2.read b).1, ((s.read a).2.read b).2) := by
  induction a generalizing s with
  | zero => rw [Nat.zero_add, read_zero, List.nil_append]
  | succ a ih => rw [Nat.succ_add, read_succ, read_succ, ih, List.cons_append]

theorem take_read {a n : Nat} (h : a ≤ n) (s : RecordSource) : (s.read n).1.take a = (s.read a).1 := by
  obtain ⟨b, rfl⟩ := Nat.exists_eq_add_of_le h
  rw [read_add, List.take_left' (length_read a s)]

/-- A source from which these bytes have been read since it started. -/
def Emitted (pattern : RecordFormat) (dropEvery : Option Nat) (bytes : Bytes) (s : RecordSource) :
    Prop :=
  s.pattern = pattern ∧ s.dropEvery = dropEvery ∧
    ∃ i, s.index = number dropEvery i ∧
      bytes ++ s.rest.toBytes = emission pattern dropEvery (i + 1)

variable {pattern : RecordFormat} {dropEvery : Option Nat} {bytes : Bytes} {s : RecordSource}

theorem emitted_start (pattern : RecordFormat) (dropEvery : Option Nat) :
    (start pattern dropEvery).Emitted pattern dropEvery [] :=
  ⟨rfl, rfl, 0, rfl, rfl⟩

theorem Emitted.prefix_emission (h : s.Emitted pattern dropEvery bytes) :
    ∃ count, bytes <+: emission pattern dropEvery count := by
  obtain ⟨-, -, i, -, split⟩ := h
  exact ⟨i + 1, s.rest.toBytes, split⟩

theorem Emitted.advance (h : s.Emitted pattern dropEvery bytes) (used : s.rest.toBytes = []) :
    s.advance.Emitted pattern dropEvery bytes := by
  obtain ⟨rfl, rfl, i, index, split⟩ := h
  have next : s.advance.index = number s.dropEvery (i + 1) := by
    rw [RecordSource.advance, index, number]
  refine ⟨rfl, rfl, i + 1, next, ?_⟩
  rw [used, List.append_nil] at split
  rw [emission, ← split, ← next]
  rfl

theorem Emitted.next (h : s.Emitted pattern dropEvery bytes) (whole : 0 < recordSize pattern) :
    s.next.2.Emitted pattern dropEvery (bytes ++ [s.next.1]) := by
  have take {t : RecordSource} {b : UInt8} {rest : Record}
      (emitted : t.Emitted pattern dropEvery bytes) (taken : t.rest.next? = some (b, rest)) :
      { t with rest }.Emitted pattern dropEvery (bytes ++ [b]) := by
    obtain ⟨same, dropping, i, index, split⟩ := emitted
    refine ⟨same, dropping, i, index, ?_⟩
    rw [Record.toBytes_of_next? taken] at split
    rw [List.append_assoc]
    exact split
  rw [RecordSource.next]
  cases left : s.rest.next? with
  | some taken => exact take h left
  | none =>
      have onward := h.advance (Record.next?_eq_none_iff.mp left)
      have length : s.advance.rest.toBytes.length = recordSize pattern := by
        rw [← h.1]
        exact length_record s.pattern _
      dsimp only
      cases fresh : s.advance.rest.next? with
      | some taken => exact take onward fresh
      | none =>
          rw [Record.next?_eq_none_iff.mp fresh] at length
          exact absurd length (Nat.ne_of_lt whole)

theorem Emitted.read (h : s.Emitted pattern dropEvery bytes) (whole : 0 < recordSize pattern)
    (n : Nat) : (s.read n).2.Emitted pattern dropEvery (bytes ++ (s.read n).1) := by
  induction n generalizing bytes s with
  | zero =>
      rw [read_zero, List.append_nil]
      exact h
  | succ n ih =>
      have onward := ih (h.next whole)
      rw [List.append_assoc] at onward
      rw [read_succ]
      exact onward

end RecordSource

end BulkStream.Peripheral
