import BulkStream.Proofs.FifoService
import BulkStream.Proofs.PeripheralCalls
import BulkStream.Proofs.PoolHistories
import BulkStream.Proofs.RecordNumbers

/-!
How the reads of a peripheral cover its record stream, whatever their lengths. Each takes up the stream
where the one before it stopped. A short packet at the end of a transfer is filled like any other, yet
of what is in it the host takes the last two bytes for status; so those bytes of the stream are lost,
and only transfers of whole packets join without a gap.
-/
namespace BulkStream.Peripheral

open Integrity

/-- Of all records in order, the `count` bytes after the first `skipped`. -/
def stretch (config : Config) (skipped count : Nat) : Bytes :=
  ((emission config.pattern config.dropEvery (skipped + count)).drop skipped).take count

theorem read_stretch {config : Config} (whole : 0 < recordSize config.pattern)
    (skipped count : Nat) :
    (((RecordSource.start config.pattern config.dropEvery).read skipped).2.read count).1 =
      stretch config skipped count := by
  have enough : skipped + count ≤ (skipped + count) * recordSize config.pattern :=
    Nat.le_mul_of_pos_right _ whole
  have front : ((RecordSource.start config.pattern config.dropEvery).read (skipped + count)).1 = _ :=
    read_front whole enough
  rw [RecordSource.read_add] at front
  have behind := congrArg (List.drop skipped) front
  rw [List.drop_left' (RecordSource.length_read _ _), List.drop_take, Nat.add_sub_cancel_left] at behind
  exact behind

namespace Fifo

/-- What some transfers come to, where each counts by the length of its request. -/
def total (share : Nat → Nat) : List (Request × Completion) → Nat
  | [] => 0
  | p :: rest => share p.1.length + total share rest

def conveys (p : Request × Completion) : Bool :=
  p.1.direction = .read ∧ p.2.status = .completed

/-- The reads of a history that completed normally, in the order in which they did. -/
def conveyed (calls : List Operation) (f : Fifo) : List (Request × Completion) :=
  (along Operation.served calls f).filter conveys

/-- These transfers, in order, take a source from one state to another. -/
inductive Carries (size : Nat) : RecordSource → List (Request × Completion) → RecordSource → Prop
  | done (s : RecordSource) : Carries size s [] s
  | next {s t : RecordSource} {p : Request × Completion} {rest : List (Request × Completion)}
      (length : p.2.length = p.1.length)
      (content : p.2.content size = (s.read (carried size p.1.length)).1)
      (onward : Carries size (s.read (framed size p.1.length)).2 rest t) : Carries size s (p :: rest) t

section

variable {size : Nat} {s t u : RecordSource} {a b : List (Request × Completion)}

theorem Carries.append (first : Carries size s a t) (second : Carries size t b u) :
    Carries size s (a ++ b) u := by
  induction first with
  | done => exact second
  | next length content onward ih => exact .next length content (ih second)

theorem Carries.split (h : Carries size s (a ++ b) u) :
    Carries size s a (s.read (total (framed size) a)).2 ∧
      Carries size (s.read (total (framed size) a)).2 b u := by
  induction a generalizing s with
  | nil => exact ⟨.done s, h⟩
  | cons p a ih =>
      cases h with
      | next length content onward =>
          obtain ⟨here, there⟩ := ih onward
          rw [total, RecordSource.read_add]
          exact ⟨.next length content here, there⟩

theorem Carries.end_eq (h : Carries size s a t) : t = (s.read (total (framed size) a)).2 := by
  rw [← List.append_nil a] at h
  obtain ⟨-, rest⟩ := h.split
  cases rest
  rfl

/-- Transfers of whole packets leave nothing out. -/
theorem Carries.contents_eq (wide : Packet.statusLength < size) (h : Carries size s a t)
    (full : ∀ p ∈ a, size ∣ p.1.length) :
    contents size (a.map Prod.snd) = (s.read (total (carried size) a)).1 := by
  induction h with
  | done => rfl
  | next length content onward ih =>
      obtain ⟨first, others⟩ := List.forall_mem_cons.mp full
      rw [List.map_cons, contents_cons, content, ih others, total, RecordSource.read_add,
        (carried_eq_framed_iff wide _).mpr first]

end

section

variable {f g : Fifo} {answers : List (Request × Completion)}

theorem complete_carries (wide : Packet.statusLength < f.config.packetSize) (r : Request) :
    Carries f.config.packetSize f.source ([(r, (complete r f).1)].filter conveys)
      (complete r f).2.source := by
  cases direction : r.direction with
  | write =>
      have aside : conveys (r, (complete r f).1) = false := by simp [conveys, direction]
      rw [List.filter_cons_of_neg (Bool.eq_false_iff.mp aside), complete_write_source direction]
      exact .done _
  | read =>
      cases faulty : f.isFaulty with
      | true =>
          rw [complete_faulty faulty, List.filter_cons_of_neg (by simp [conveys])]
          exact .done _
      | false =>
          obtain ⟨length, after, spans⟩ := frame_read wide r.length f.source
          rw [complete_read faulty direction, List.filter_cons_of_pos (by simp [conveys, direction])]
          refine .next rfl ?_ ?_
          · rw [Completion.content]
            dsimp only
            rw [List.take_left' length]
            exact spans
          · dsimp only
            rw [← after]
            exact .done _

theorem Serves.carries (h : f.Serves answers g)
    (wide : Packet.statusLength < f.config.packetSize) :
    Carries f.config.packetSize f.source (answers.filter conveys) g.source := by
  induction h with
  | done => exact .done _
  | @next f g r queue answers front running rest ih =>
      have first := complete_carries (f := { f with queue }) wide r
      obtain ⟨source, received, after⟩ := complete_state r { f with queue }
      rw [after] at ih first
      have onward := ih wide
      have parts : ((r, (complete r { f with queue }).1) :: answers).filter conveys =
          [(r, (complete r { f with queue }).1)].filter conveys ++ answers.filter conveys :=
        List.filter_append [_] answers
      rw [parts]
      exact first.append onward

/-- One call. -/
theorem Operation.carries (call : Operation) (wide : Packet.statusLength < f.config.packetSize) :
    (call.after f).config = f.config ∧
      Carries f.config.packetSize f.source ((call.served f).filter conveys)
        (call.after f).source := by
  obtain ⟨answers, called, same⟩ := call.called f
  generalize call.accepted f = taken, call.after f = g at called ⊢
  cases called with
  | refused | accepted | cancelled | moded | purged => exact ⟨rfl, .done _⟩
  | waited milliseconds waited =>
      rw [served, ← same]
      cases waited with
      | retrieved some =>
          rw [if_neg some]
          exact ⟨rfl, .done _⟩
      | served none streaming serves within =>
          obtain ⟨_, _, _, _, state⟩ := serves.state
          rw [if_pos none, serves.queue_eq, zip_answers]
          refine ⟨?_, serves.carries wide⟩
          rw [state]
      | idle none resting =>
          rw [if_pos none, List.map_nil, List.zip_nil_right]
          exact ⟨rfl, .done _⟩

theorem carries_along (calls : List Operation) (wide : Packet.statusLength < f.config.packetSize) :
    Carries f.config.packetSize f.source (conveyed calls f) (after calls f).source := by
  induction calls generalizing f with
  | nil => exact .done _
  | cons call calls ih =>
      obtain ⟨same, here⟩ := call.carries wide
      have onward := ih (f := call.after f) (same.symm ▸ wide)
      rw [same] at onward
      rw [conveyed, along, List.filter_append]
      exact here.append onward

end

/-- How a history of calls on a fresh peripheral covers the record stream. -/
structure Coverage (config : Config) (f : Fifo) (calls : List Operation) : Prop where
  /-- Each transfer takes what fits its packets. -/
  source_eq : (after calls f).source =
    ((RecordSource.start config.pattern config.dropEvery).read
      (total (framed config.packetSize) (conveyed calls f))).2
  /-- The host finds the next bytes, the last few of a short packet excepted. -/
  demuxed : ∀ before p later, conveyed calls f = before ++ p :: later →
    p.2.length = p.1.length ∧
      (Received.ofBuffer p.2.buffer p.2.length config.packetSize).map (·.spans.flatten) =
        .ok (stretch config (total (framed config.packetSize) before)
          (carried config.packetSize p.1.length))
  /-- Transfers of whole packets join without a gap. -/
  seamless : ∀ before middle later, conveyed calls f = before ++ middle ++ later →
    (∀ p ∈ middle, config.packetSize ∣ p.1.length) →
      contents config.packetSize (middle.map Prod.snd) =
        stretch config (total (framed config.packetSize) before)
          (total (carried config.packetSize) middle)

/-- Reads of any lengths cover the record stream in order. No byte of it is lost where a read is of
whole packets, as all reads of a pool are, and some are lost in any other. -/
theorem reads_cover_stream {config : Config} {f : Fifo} (fresh : ofConfig config = .ok f)
    (whole : 0 < recordSize config.pattern) (calls : List Operation) :
    Coverage config f calls ∧
      (∀ length, carried config.packetSize length ≤ framed config.packetSize length ∧
        (carried config.packetSize length = framed config.packetSize length ↔
          config.packetSize ∣ length)) ∧
      ∀ r, Pool.Submits config.packetSize r → config.packetSize ∣ r.length := by
  obtain ⟨wide, state⟩ := ofConfig_ok fresh
  have same : f.config = config := congrArg Fifo.config state
  have source : f.source = .start config.pattern config.dropEvery := congrArg Fifo.source state
  have carries := carries_along (f := f) calls (same.symm ▸ wide)
  rw [same, source] at carries
  have lossless (length : Nat) := And.intro (carried_le_framed wide length)
    (carried_eq_framed_iff wide length)
  refine ⟨⟨carries.end_eq, ?_, ?_⟩, lossless, fun r => Pool.Submits.full⟩
  · intro before p later parts
    rw [parts] at carries
    obtain ⟨-, behind⟩ := carries.split
    cases behind with
    | next length content onward =>
        refine ⟨length, ?_⟩
        rw [Received.ofBuffer, if_pos wide, ← read_stretch whole, ← content]
        rfl
  · intro before middle later parts full
    rw [parts, List.append_assoc] at carries
    obtain ⟨-, behind⟩ := carries.split
    rw [behind.split.1.contents_eq wide full, read_stretch whole]

/-- Packets of five bytes and records of three: the first and the last read end in a short packet. -/
theorem uneven_reads_cover_stream :
    ∃ (config : Config) (f : Fifo) (calls : List Operation),
      ofConfig config = .ok f ∧ 0 < recordSize config.pattern ∧
        (conveyed calls f).map (fun p => (p.1.length, p.2.slot)) = [(8, 0), (10, 1), (4, 2)] ∧
        Coverage config f calls ∧
        (∀ length, carried config.packetSize length ≤ framed config.packetSize length ∧
          (carried config.packetSize length = framed config.packetSize length ↔
            config.packetSize ∣ length)) ∧
        ∀ r, Pool.Submits config.packetSize r → config.packetSize ∣ r.length := by
  let request (slot : Nat) (direction : Direction) (length : Nat) : Operation :=
    .submit ⟨slot, direction, List.replicate 12 7, length⟩
  let calls : List Operation :=
    [request 0 .read 8, request 5 .write 3, request 1 .read 10, .setMode .syncFifo, .wait 1,
      request 6 .read 5, .cancelAll, request 2 .read 4, .wait 1, .wait 1]
  refine ⟨{ packetSize := 5, pattern := .binary { recordSize := 3 }, dropEvery := some 2 }, _, calls,
    rfl, by decide, ?_, reads_cover_stream rfl (by decide) calls⟩
  decide +kernel

end Fifo

end BulkStream.Peripheral
