import Mathlib.Algebra.GroupWithZero.Nat
import BulkStream.Proofs.RecordNumbers

/-!
Filling buffers from a record source. A fill goes in turns: where the current record is used up the
next one comes up, and as much of it is copied as there is and as fits. As long as records hold
anything each turn copies something, so every fill comes to an end; and it copies what reading byte
by byte gives. So the buffers hold the records in order, wherever they cut them.
-/
namespace BulkStream.Peripheral

open Integrity

namespace Record

/-- What is left of a record behind so many bytes. -/
def drop (r : Record) (count : Nat) : Record :=
  ⟨r.head.drop count, r.padding - (count - r.head.length), r.filler⟩

@[simp] theorem drop_zero (r : Record) : r.drop 0 = r := by simp [drop]

theorem toBytes_drop (r : Record) (count : Nat) : (r.drop count).toBytes = r.toBytes.drop count := by
  simp [drop, toBytes, List.drop_append]

theorem drop_succ_of_next? {r rest : Record} {b : UInt8} (h : r.next? = some (b, rest))
    (count : Nat) : r.drop (count + 1) = rest.drop count := by
  obtain ⟨head, padding, filler⟩ := r
  cases head with
  | cons c head =>
      simp only [next?, Option.some.injEq, Prod.mk.injEq] at h
      obtain ⟨rfl, rfl⟩ := h
      simp [drop]
  | nil =>
      cases padding with
      | zero => simp [next?] at h
      | succ padding =>
          simp only [next?, Option.some.injEq, Prod.mk.injEq] at h
          obtain ⟨rfl, rfl⟩ := h
          simp [drop]

end Record

namespace RecordSource

/-- The source with its next record in place of one that is used up. -/
def ready (s : RecordSource) : RecordSource := if s.rest.toBytes = [] then s.advance else s

/-- The source behind so many bytes of the current record. -/
def pass (s : RecordSource) (count : Nat) : RecordSource := { s with rest := s.rest.drop count }

/-- So many turns fill so much room, copying these bytes, and leave the source like that. -/
inductive Fills : Nat → RecordSource → Nat → Bytes → RecordSource → Prop
  | full (s : RecordSource) : Fills 0 s 0 [] s
  | turn {s t : RecordSource} {turns room count : Nat} {bytes : Bytes} (wanting : 0 < room)
      (most : count = min s.ready.rest.toBytes.length room)
      (onward : Fills turns (s.ready.pass count) (room - count) bytes t) :
      Fills (turns + 1) s room (s.ready.rest.toBytes.take count ++ bytes) t

/-- Buffers with so much room each are filled one after another. -/
inductive FillsEach : RecordSource → List Nat → List Bytes → RecordSource → Prop
  | done (s : RecordSource) : FillsEach s [] [] s
  | next {s t u : RecordSource} {turns room : Nat} {rooms : List Nat} {bytes : Bytes}
      {buffers : List Bytes} (fill : Fills turns s room bytes t)
      (onward : FillsEach t rooms buffers u) : FillsEach s (room :: rooms) (bytes :: buffers) u

/-- What reads of so many bytes each give, and the source behind them. -/
def readEach : List Nat → RecordSource → List Bytes × RecordSource
  | [], s => ([], s)
  | room :: rooms, s =>
      let (bytes, s) := s.read room
      let (buffers, s) := readEach rooms s
      (bytes :: buffers, s)

theorem map_length_readEach (rooms : List Nat) (s : RecordSource) :
    (readEach rooms s).1.map List.length = rooms := by
  induction rooms generalizing s with
  | nil => rfl
  | cons room rooms ih => simp [readEach, length_read, ih]

/-- Reads one after another are one read. -/
theorem flatten_readEach (rooms : List Nat) (s : RecordSource) :
    ((readEach rooms s).1.flatten, (readEach rooms s).2) = s.read rooms.sum := by
  induction rooms generalizing s with
  | nil => rfl
  | cons room rooms ih =>
      simp only [readEach, List.flatten_cons, List.sum_cons, read_add, ← ih]

section

variable {s t : RecordSource} {room : Nat}

theorem ready_of_used (used : s.rest.toBytes = []) : s.ready = s.advance := if_pos used

theorem ready_of_rest (rest : s.rest.toBytes ≠ []) : s.ready = s := if_neg rest

theorem length_advance (s : RecordSource) : s.advance.rest.toBytes.length = recordSize s.pattern :=
  length_record s.pattern _

theorem pattern_ready (s : RecordSource) : s.ready.pattern = s.pattern := by
  by_cases used : s.rest.toBytes = []
  · rw [ready_of_used used]
    rfl
  · rw [ready_of_rest used]

theorem ready_rest_pos (whole : 0 < recordSize s.pattern) : 0 < s.ready.rest.toBytes.length := by
  by_cases used : s.rest.toBytes = []
  · rwa [ready_of_used used, length_advance]
  · rw [ready_of_rest used]
    exact List.length_pos_of_ne_nil used

/-- Within the current record, reading takes bytes off it. -/
theorem read_within (within : room ≤ s.rest.toBytes.length) :
    s.read room = (s.rest.toBytes.take room, s.pass room) := by
  induction room generalizing s with
  | zero => simp [read_zero, pass]
  | succ room ih =>
      cases left : s.rest.next? with
      | none =>
          rw [Record.next?_eq_none_iff.mp left] at within
          contradiction
      | some taken =>
          obtain ⟨b, rest⟩ := taken
          have bytes := Record.toBytes_of_next? left
          have next : s.next = (b, { s with rest }) := by rw [next, left]
          have fewer : room ≤ rest.toBytes.length := by simpa [bytes] using within
          have onward := ih (s := { s with rest }) fewer
          simp [read_succ, next, onward, bytes, pass, Record.drop_succ_of_next? left]

/-- The next record comes up when the first byte of it is wanted. -/
theorem read_ready (whole : 0 < recordSize s.pattern) (wanting : 0 < room) :
    s.ready.read room = s.read room := by
  by_cases used : s.rest.toBytes = []
  · obtain ⟨more, rfl⟩ : ∃ more, room = more + 1 := ⟨room - 1, by omega⟩
    have none_left : s.rest.next? = none := Record.next?_eq_none_iff.mpr used
    have some_next : s.advance.rest.next? ≠ none := by
      intro none_next
      have length := length_advance s
      rw [Record.next?_eq_none_iff.mp none_next] at length
      exact absurd length (Nat.ne_of_lt whole)
    obtain ⟨taken, first⟩ := Option.ne_none_iff_exists'.mp some_next
    have same : s.advance.next = s.next := by simp [next, none_left, first]
    rw [ready_of_used used, read_succ, read_succ, same]
  · rw [ready_of_rest used]

/-- A turn copies what the next bytes are. -/
theorem read_turn (whole : 0 < recordSize s.pattern) (wanting : 0 < room) {count : Nat}
    (most : count = min s.ready.rest.toBytes.length room) :
    s.read room = (s.ready.rest.toBytes.take count ++ ((s.ready.pass count).read (room - count)).1,
      ((s.ready.pass count).read (room - count)).2) := by
  have within : count ≤ s.ready.rest.toBytes.length := most ▸ Nat.min_le_left ..
  have fits : count + (room - count) = room := Nat.add_sub_of_le (most ▸ Nat.min_le_right ..)
  conv => lhs; rw [← read_ready whole wanting, ← fits, read_add, read_within within]

/-- A fill that ends has copied the next bytes. -/
theorem Fills.read_eq {turns : Nat} {bytes : Bytes} (h : Fills turns s room bytes t)
    (whole : 0 < recordSize s.pattern) : s.read room = (bytes, t) := by
  induction h with
  | full s => exact read_zero s
  | @turn s t turns room count bytes wanting most onward ih =>
      have rest := ih (by rwa [pass, pattern_ready])
      rw [read_turn whole wanting most, rest]

theorem Fills.pattern_eq {turns : Nat} {bytes : Bytes} (h : Fills turns s room bytes t) :
    t.pattern = s.pattern := by
  induction h with
  | full => rfl
  | turn wanting most onward ih => exact ih.trans (pattern_ready _)

/-- A fill ends, because each turn leaves less room than there was. -/
theorem exists_fills (whole : 0 < recordSize s.pattern) (room : Nat) :
    ∃ turns ≤ room, Fills turns s room (s.read room).1 (s.read room).2 := by
  induction room using Nat.strongRecOn generalizing s with
  | _ room ih =>
      rcases Nat.eq_zero_or_pos room with rfl | wanting
      · exact ⟨0, Nat.le_refl _, .full s⟩
      · obtain ⟨count, most⟩ : ∃ count, count = min s.ready.rest.toBytes.length room := ⟨_, rfl⟩
        have some_rest := ready_rest_pos whole
        have less : room - count < room := by omega
        obtain ⟨turns, few, onward⟩ := ih (room - count) less (s := s.ready.pass count)
          (by rwa [pass, pattern_ready])
        refine ⟨turns + 1, by omega, ?_⟩
        rw [read_turn whole wanting most]
        exact .turn wanting most onward

/-- Records that hold nothing come up one after another for ever, and a fill does not end. -/
theorem not_fills_of_empty (empty : recordSize s.pattern = 0) (used : s.rest.toBytes = [])
    (wanting : 0 < room) {turns : Nat} {bytes : Bytes} : ¬ Fills turns s room bytes t := by
  induction turns generalizing s bytes with
  | zero =>
      intro fill
      cases fill
      contradiction
  | succ turns ih =>
      intro fill
      cases fill with
      | @turn _ _ _ _ count _ _ most onward =>
          have nothing : s.advance.rest.toBytes = [] := by
            rw [← List.length_eq_zero_iff, length_advance, empty]
          have none_copied : count = 0 := by simpa [ready_of_used used, nothing] using most
          rw [ready_of_used used, none_copied] at onward
          exact ih (s := s.advance.pass 0) empty (by simpa [pass] using nothing) onward

theorem fillsEach_iff (whole : 0 < recordSize s.pattern) {rooms : List Nat}
    {buffers : List Bytes} : FillsEach s rooms buffers t ↔ readEach rooms s = (buffers, t) := by
  constructor
  · intro h
    induction h with
    | done s => rfl
    | next fill onward ih =>
        have first := fill.read_eq whole
        have others := ih (by rwa [fill.pattern_eq])
        simp [readEach, first, others]
  · intro h
    induction rooms generalizing s buffers with
    | nil =>
        cases h
        exact .done _
    | cons room rooms ih =>
        cases h
        obtain ⟨turns, -, fill⟩ := exists_fills whole room
        exact .next fill (ih (by rwa [fill.pattern_eq]) rfl)

end

end RecordSource

/-- Buffers of any sizes filled one after another from a new source: every fill comes to its end, and
in one way alone. Together the buffers are one read, the front of all records in order; each record
lies in its place in them whole, as far as they reach. The numbers of the records are those that the
drop setting leaves. -/
theorem fills_follow_records {pattern : RecordFormat} (whole : 0 < recordSize pattern)
    (dropEvery : Option Nat) (rooms : List Nat) :
    let source := RecordSource.start pattern dropEvery
    let size := recordSize pattern
    let emitted (k : Nat) := (record pattern (numberAt dropEvery k)).toBytes
    ∃ buffers last,
      (∀ others t, source.FillsEach rooms others t ↔ others = buffers ∧ t = last) ∧
      source.readEach rooms = (buffers, last) ∧
      source.read rooms.sum = (buffers.flatten, last) ∧
      buffers.map List.length = rooms ∧
      (∀ count, rooms.sum ≤ count * size →
        buffers.flatten <+: (List.range count).flatMap emitted) ∧
      (∀ k, (emitted k).length = size ∧
        (buffers.flatten.drop (k * size)).take size =
          (emitted k).take (rooms.sum - k * size)) ∧
      ∀ n ∈ dropEvery, 2 ≤ n → ∀ i, (∀ k, numberAt dropEvery k ≠ i) ↔ n ∣ i + 1 := by
  intro source size emitted
  have together := RecordSource.flatten_readEach rooms source
  have front {count : Nat} (reaches : rooms.sum ≤ count * size) :
      (source.readEach rooms).1.flatten = (emission pattern dropEvery count).take rooms.sum :=
    (congrArg Prod.fst together).trans (read_front whole reaches)
  refine ⟨_, _, ?_, rfl, together.symm, RecordSource.map_length_readEach rooms source, ?_, ?_, ?_⟩
  · intro others t
    rw [RecordSource.fillsEach_iff whole, Prod.ext_iff]
    exact ⟨fun h => ⟨h.1.symm, h.2.symm⟩, fun h => ⟨h.1.symm, h.2.symm⟩⟩
  · intro count reaches
    rw [front reaches, ← emission_eq_flatMap]
    exact List.take_prefix ..
  · intro k
    refine ⟨length_record .., ?_⟩
    -- Any number of records will do that reaches behind both the last byte and the record.
    have reaches : rooms.sum ≤ (rooms.sum + k + 1) * size :=
      (by omega : rooms.sum ≤ rooms.sum + k + 1).trans (Nat.le_mul_of_pos_right _ whole)
    have place : ((emission pattern dropEvery (rooms.sum + k + 1)).drop (k * size)).take size =
        emitted k := emission_place (by omega)
    rw [front reaches, List.drop_take, List.take_take, Nat.min_comm, ← List.take_take, place]
  · rintro n ⟨⟩ sparse i
    exact numberAt_omits_iff sparse i

/-- Records of three bytes, every third one left out; the buffers cut three of them. -/
theorem cut_records_filled :
    let pattern : RecordFormat := .binary ⟨3, 1⟩
    0 < recordSize pattern ∧
      ∃ last, (RecordSource.start pattern (some 3)).FillsEach [2, 0, 5, 4]
        [[0, 0], [], [0, 1, 0, 0, 3], [0, 0, 4, 0]] last := by
  intro pattern
  have whole : 0 < recordSize pattern := by decide
  obtain ⟨buffers, last, ends, same, -⟩ := fills_follow_records whole (some 3) [2, 0, 5, 4]
  have filled : buffers = [[0, 0], [], [0, 1, 0, 0, 3], [0, 0, 4, 0]] :=
    (congrArg Prod.fst same).symm.trans (by decide)
  exact ⟨whole, last, (ends _ _).mpr ⟨filled.symm, rfl⟩⟩

end BulkStream.Peripheral
