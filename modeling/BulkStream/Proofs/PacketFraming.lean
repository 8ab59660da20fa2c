import BulkStream.Peripheral.Fifo
import BulkStream.Proofs.Blocks
import BulkStream.Proofs.RecordStream

/-!
Framing and its reverse. Of a transfer that is a number of full packets, the payload spans that the
host finds are the bytes read from the record source, in order, with no status byte among them.
-/
namespace BulkStream

theorem Packet.payload_append {data trailer : Bytes} (h : trailer.length = statusLength) :
    payload (data ++ trailer) = data := by
  rw [payload, List.length_append, h, Nat.add_sub_cancel, List.take_left]

theorem Received.spans_append {packet rest : Bytes} {size : Nat} (positive : 0 < size)
    (h : packet.length = size) :
    (Received.mk (packet ++ rest) size).spans =
      Packet.payload packet :: (Received.mk rest size).spans := by
  rw [spans, blocks_cons packet rest positive h, List.map_cons]
  rfl

theorem Received.spans_nil (size : Nat) : (Received.mk [] size).spans = [] := by
  rw [spans, blocks_nil, List.map_nil]

namespace Peripheral

open Integrity

variable {size : Nat} {pattern : RecordFormat} {dropEvery : Option Nat} {bytes : Bytes}

/-- Bytes of the record stream that go into a transfer of `length` bytes: what fits every full packet,
and in a short one at the end all that its size leaves room for. -/
def framed (size length : Nat) : Nat :=
  length / size * (size - Packet.statusLength) + min (length % size) (size - Packet.statusLength)

/-- Bytes that the host finds in such a transfer: of the short packet too, the last two count as
status. -/
def carried (size length : Nat) : Nat :=
  length / size * (size - Packet.statusLength) + (length % size - Packet.statusLength)

theorem carried_le_framed {size : Nat} (wide : Packet.statusLength < size) (length : Nat) :
    carried size length ≤ framed size length := by
  have short : length % size < size := Nat.mod_lt _ (Nat.zero_lt_of_lt wide)
  have status : Packet.statusLength = 2 := rfl
  rw [carried, framed, status]
  omega

theorem carried_eq_framed_iff {size : Nat} (wide : Packet.statusLength < size) (length : Nat) :
    carried size length = framed size length ↔ size ∣ length := by
  have short : length % size < size := Nat.mod_lt _ (Nat.zero_lt_of_lt wide)
  have status : Packet.statusLength = 2 := rfl
  rw [carried, framed, status, Nat.dvd_iff_mod_eq_zero]
  omega

theorem framePackets_cons (size first : Nat) (sizes : List Nat) (s : RecordSource) :
    framePackets size (first :: sizes) s =
      ((framePacket size first s).1 ++ (framePackets size sizes (framePacket size first s).2).1,
        (framePackets size sizes (framePacket size first s).2).2) := rfl

theorem framePackets_append (size : Nat) (a b : List Nat) (s : RecordSource) :
    framePackets size (a ++ b) s =
      ((framePackets size a s).1 ++ (framePackets size b (framePackets size a s).2).1,
        (framePackets size b (framePackets size a s).2).2) := by
  induction a generalizing s with
  | nil => rfl
  | cons first a ih =>
      rw [List.cons_append, framePackets_cons, framePackets_cons, ih, List.append_assoc]

theorem framePacket_full (wide : Packet.statusLength < size) (s : RecordSource) :
    framePacket size size s =
      ((s.read (size - Packet.statusLength)).1 ++ trailer,
        (s.read (size - Packet.statusLength)).2) := by
  have room : min size (size - Packet.statusLength) = size - Packet.statusLength :=
    Nat.min_eq_right (Nat.sub_le _ _)
  have status : size - (size - Packet.statusLength) = Packet.statusLength :=
    Nat.sub_sub_self (Nat.le_of_lt wide)
  simp only [framePacket, room, status]
  rfl

/-- Full packets, with whatever follows them. -/
theorem framePackets_full (wide : Packet.statusLength < size) (n : Nat) (s : RecordSource)
    (rest : Bytes) :
    let (packets, after) := framePackets size (List.replicate n size) s
    packets.length = n * size ∧ after = (s.read (n * (size - Packet.statusLength))).2 ∧
      (Received.mk (packets ++ rest) size).spans.flatten =
        (s.read (n * (size - Packet.statusLength))).1 ++ (Received.mk rest size).spans.flatten := by
  induction n generalizing s with
  | zero => simp [framePackets, RecordSource.read_zero]
  | succ n ih =>
      obtain ⟨length, after, spans⟩ := ih (s.read (size - Packet.statusLength)).2
      have packet : ((s.read (size - Packet.statusLength)).1 ++ trailer).length = size := by
        rw [List.length_append, RecordSource.length_read]
        exact Nat.sub_add_cancel (Nat.le_of_lt wide)
      rw [List.replicate_succ, framePackets_cons, framePacket_full wide]
      dsimp only
      rw [Nat.succ_mul, Nat.succ_mul, Nat.add_comm (n * (size - Packet.statusLength)),
        RecordSource.read_add, List.length_append, packet, length, Nat.add_comm size,
        List.append_assoc, Received.spans_append (Nat.zero_lt_of_lt wide) packet,
        Packet.payload_append rfl, List.flatten_cons, spans, List.append_assoc]
      exact ⟨rfl, after, rfl⟩

/-- A packet that is not full keeps its last two bytes from the host, whatever they are. -/
theorem framePacket_short {r : Nat} (short : r < size) (s : RecordSource) :
    (framePacket size r s).1.length = r ∧
      (framePacket size r s).2 = (s.read (min r (size - Packet.statusLength))).2 ∧
      (framePacket size r s).1.take (r - Packet.statusLength) =
        (s.read (r - Packet.statusLength)).1 := by
  have status : Packet.statusLength = 2 := rfl
  have read := RecordSource.length_read (min r (size - Packet.statusLength)) s
  refine ⟨?_, rfl, ?_⟩
  · simp only [framePacket, List.length_append, read, List.length_take, trailer,
      List.length_cons, List.length_nil]
    omega
  · simp only [framePacket]
    rw [List.take_append_of_le_length (by omega), RecordSource.take_read (by omega)]

/-- The packet at the end of a transfer, or none where all packets are full. -/
theorem framePackets_rest {r : Nat} (short : r < size) (s : RecordSource) :
    let (packet, after) := framePackets size (if r = 0 then [] else [r]) s
    packet.length = r ∧ after = (s.read (min r (size - Packet.statusLength))).2 ∧
      (Received.mk packet size).spans.flatten = (s.read (r - Packet.statusLength)).1 := by
  by_cases none : r = 0
  · subst none
    rw [Nat.zero_min, Nat.zero_sub, RecordSource.read_zero]
    exact ⟨rfl, rfl, congrArg List.flatten (Received.spans_nil size)⟩
  · obtain ⟨length, after, front⟩ := framePacket_short short s
    rw [if_neg none, framePackets_cons, framePackets]
    dsimp only
    rw [List.append_nil]
    have some_bytes : (framePacket size r s).1 ≠ [] := by
      intro nothing
      rw [nothing] at length
      exact none length.symm
    have fits : (framePacket size r s).1.length ≤ size := by
      rw [length]
      exact Nat.le_of_lt short
    refine ⟨length, after, ?_⟩
    rw [Received.spans, blocks_short some_bytes fits, List.map_singleton, List.flatten_singleton,
      Packet.payload, length, front]

/-- What a transfer takes from the source, and what the host finds in it. -/
theorem frame_read (wide : Packet.statusLength < size) (length : Nat) (s : RecordSource) :
    (frame size length s).1.length = length ∧
      (frame size length s).2 = (s.read (framed size length)).2 ∧
      (Received.mk (frame size length s).1 size).spans.flatten =
        (s.read (carried size length)).1 := by
  have packets := framePackets_full wide (length / size) s
  obtain ⟨full, between, -⟩ := packets []
  have short : length % size < size := Nat.mod_lt _ (Nat.zero_lt_of_lt wide)
  obtain ⟨rest, after, spans⟩ :=
    framePackets_rest short (framePackets size (List.replicate (length / size) size) s).2
  rw [frame, packetSizes, framePackets_append]
  dsimp only
  rw [List.length_append, full, rest, (packets _).2.2, spans, after, between, framed, carried,
    RecordSource.read_add, RecordSource.read_add]
  exact ⟨Nat.div_add_mod' length size, rfl, rfl⟩

theorem frame_full {length : Nat} (wide : Packet.statusLength < size)
    (whole : 0 < recordSize pattern) (full : size ∣ length) {s : RecordSource}
    (h : s.Emitted pattern dropEvery bytes) :
    (frame size length s).1.length = length ∧
      (frame size length s).2.Emitted pattern dropEvery
        (bytes ++ (Received.mk (frame size length s).1 size).spans.flatten) := by
  obtain ⟨same, after, spans⟩ := frame_read wide length s
  rw [after, spans, (carried_eq_framed_iff wide length).mpr full]
  exact ⟨same, h.read whole _⟩

end Peripheral

end BulkStream
