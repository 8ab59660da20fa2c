import Mathlib.Algebra.Order.Floor.Div
import BulkStream.Proofs.PacketFraming

/-!
Where payload bytes stand. Packets of one size put the payload of a transfer at places that follow
from its length alone, whether its last packet is whole, short, too short for payload or not there.
What is found at any other place has no part in the result.
-/
namespace BulkStream

open Peripheral (carried)

variable {size : Nat}

namespace Packet

/-- The place in a transfer of a payload byte, by its number among all payload bytes. -/
def place (size number : Nat) : Nat :=
  number / (size - statusLength) * size + number % (size - statusLength)

/-- The place is one of the last two in its packet, of a transfer of `length` bytes. -/
def IsStatus (size length place : Nat) : Prop :=
  min ((place / size + 1) * size) length ≤ place + statusLength

theorem length_payload (packet : Bytes) :
    (payload packet).length = packet.length - statusLength := by
  simp only [payload, List.length_take]
  omega

theorem place_of_lt {j : Nat} (h : j < size - statusLength) : place size j = j := by
  simp only [place, Nat.div_eq_of_lt h, Nat.mod_eq_of_lt h]
  omega

theorem place_add (wide : statusLength < size) (j : Nat) :
    place size (size - statusLength + j) = size + place size j := by
  have room : 0 < size - statusLength := Nat.sub_pos_of_lt wide
  simp only [place, Nat.add_div_left j room, Nat.add_mod_left, Nat.succ_mul]
  omega

theorem carried_add (wide : statusLength < size) (length : Nat) :
    carried size (size + length) = size - statusLength + carried size length := by
  have positive : 0 < size := Nat.zero_lt_of_lt wide
  simp only [carried, Nat.add_div_left length positive, Nat.add_mod_left, Nat.succ_mul]
  omega

theorem carried_of_lt {length : Nat} (short : length < size) :
    carried size length = length - statusLength := by
  simp only [carried, Nat.div_eq_of_lt short, Nat.mod_eq_of_lt short]
  omega

/-- Behind each payload byte come at least the two status bytes of its packet. -/
theorem place_before_status (wide : statusLength < size) {length j : Nat}
    (h : j < carried size length) :
    place size j + statusLength < min ((place size j / size + 1) * size) length := by
  obtain ⟨room, rfl⟩ := Nat.exists_eq_add_of_le' (Nat.le_of_lt wide)
  have positive : 0 < room + statusLength := Nat.zero_lt_of_lt wide
  have inside : j % room < room := Nat.mod_lt j (Nat.pos_of_lt_add_left wide)
  have packet : place (room + statusLength) j / (room + statusLength) = j / room := by
    rw [place, Nat.add_sub_cancel, Nat.mul_comm, Nat.mul_add_div positive,
      Nat.div_eq_of_lt (Nat.lt_add_right statusLength inside), Nat.add_zero]
  have number := Nat.div_add_mod' j room
  have whole := Nat.div_add_mod' length (room + statusLength)
  have short := Nat.mod_lt length positive
  simp only [carried, Nat.add_sub_cancel] at h
  rw [packet, place, Nat.add_sub_cancel, Nat.lt_min, Nat.succ_mul]
  refine ⟨by omega, ?_⟩
  generalize j / room = a at *
  generalize length / (room + statusLength) = q at *
  -- Packet `a` is a whole one, or the short one behind all whole ones.
  obtain before | last | beyond := Nat.lt_trichotomy a q
  · have all : (a + 1) * (room + statusLength) ≤ q * (room + statusLength) :=
      Nat.mul_le_mul_right _ before
    rw [Nat.succ_mul] at all
    omega
  · subst last
    omega
  · have all : (q + 1) * room ≤ a * room := Nat.mul_le_mul_right _ beyond
    rw [Nat.succ_mul] at all
    omega

theorem place_lt (wide : statusLength < size) {length j : Nat} (h : j < carried size length) :
    place size j < length := by
  have before := place_before_status wide h
  omega

theorem not_isStatus_place (wide : statusLength < size) {length j : Nat}
    (h : j < carried size length) : ¬ IsStatus size length (place size j) :=
  Nat.not_le_of_lt (place_before_status wide h)

end Packet

namespace Received

open Packet

theorem spans_of_short {data : Bytes} (some_bytes : data ≠ []) (short : data.length ≤ size) :
    (Received.mk data size).spans = [payload data] := by
  rw [spans, blocks_short some_bytes short, List.map_singleton]

theorem payloadLength_eq (r : Received) : r.payloadLength = r.spans.flatten.length := by
  simp only [payloadLength, List.length_flatten, List.sum_eq_foldl, List.foldl_map]

theorem length_spans (positive : 0 < size) (data : Bytes) :
    (Received.mk data size).spans.length = data.length ⌈/⌉ size := by
  induction data using block_induction positive with
  | short data few =>
      by_cases nothing : data = []
      · subst nothing
        simp only [spans_nil, List.length_nil, zero_ceilDiv]
      · have some_bytes := List.length_pos_of_ne_nil nothing
        rw [spans_of_short nothing (Nat.le_of_lt few), List.length_singleton,
          Nat.ceilDiv_eq_add_pred_div, eq_comm]
        apply Nat.div_eq_of_lt_le <;> omega
  | block block rest whole ih =>
      rw [spans_append positive whole, List.length_cons, ih, List.length_append, whole,
        Nat.ceilDiv_eq_add_pred_div, Nat.ceilDiv_eq_add_pred_div, ← Nat.add_div_right _ positive]
      congr 1
      omega

theorem length_flatten_spans (wide : statusLength < size) (data : Bytes) :
    (Received.mk data size).spans.flatten.length = carried size data.length := by
  have positive : 0 < size := Nat.zero_lt_of_lt wide
  induction data using block_induction positive with
  | short data few =>
      rw [carried_of_lt few]
      by_cases nothing : data = []
      · subst nothing
        simp only [spans_nil, List.flatten_nil, List.length_nil, Nat.zero_sub]
      · simp only [spans_of_short nothing (Nat.le_of_lt few), List.flatten_singleton,
          length_payload]
  | block block rest whole ih =>
      simp only [spans_append positive whole, List.flatten_cons, List.length_append, ih,
        length_payload, whole, carried_add wide]

/-- The spans of a transfer are as long as those of any other of its length. -/
theorem map_length_spans (positive : 0 < size) {data other : Bytes}
    (same : other.length = data.length) :
    (Received.mk other size).spans.map List.length =
      (Received.mk data size).spans.map List.length := by
  induction data using block_induction positive generalizing other with
  | short data few =>
      by_cases nothing : data = []
      · subst nothing
        rw [List.length_eq_zero_iff.mp same]
      · have some_bytes : other ≠ [] := by
          intro none
          subst none
          exact nothing (List.length_eq_zero_iff.mp same.symm)
        simp only [spans_of_short nothing (Nat.le_of_lt few),
          spans_of_short some_bytes (same ▸ Nat.le_of_lt few), List.map_singleton, length_payload,
          same]
  | block block rest whole ih =>
      simp only [List.length_append, whole] at same
      have front : (other.take size).length = size := by
        rw [List.length_take]
        omega
      have back : (other.drop size).length = rest.length := by
        rw [List.length_drop]
        omega
      rw [← List.take_append_drop size other]
      simp only [spans_append positive front, spans_append positive whole, List.map_cons, ih back,
        length_payload, front, whole]

theorem getElem?_flatten_spans (wide : statusLength < size) (data : Bytes) {j : Nat}
    (h : j < carried size data.length) :
    (Received.mk data size).spans.flatten[j]? = data[place size j]? := by
  have positive : 0 < size := Nat.zero_lt_of_lt wide
  induction data using block_induction positive generalizing j with
  | short data few =>
      rw [carried_of_lt few] at h
      have some_bytes : data ≠ [] := by
        intro nothing
        subst nothing
        simp at h
      rw [spans_of_short some_bytes (Nat.le_of_lt few), List.flatten_singleton, payload,
        List.getElem?_take, if_pos h, place_of_lt (by omega)]
  | block block rest whole ih =>
      rw [spans_append positive whole, List.flatten_cons]
      by_cases first : j < size - statusLength
      · have inside : j < (payload block).length := by
          rw [length_payload, whole]
          exact first
        rw [List.getElem?_append_left inside, payload, List.getElem?_take, if_pos (whole ▸ first),
          place_of_lt first, List.getElem?_append_left (by omega)]
      · obtain ⟨i, rfl⟩ := Nat.exists_eq_add_of_le (Nat.le_of_not_lt first)
        rw [List.length_append, whole, carried_add wide] at h
        have later : (payload block).length = size - statusLength := by
          rw [length_payload, whole]
        rw [← later, List.getElem?_append_right (Nat.le_add_right _ _), Nat.add_sub_cancel_left,
          ih (by omega), later, place_add wide, List.getElem?_append_right (by omega), whole,
          Nat.add_sub_cancel_left]

/-- Two transfers of one length have the same spans if they differ in status bytes only. -/
theorem spans_congr (wide : statusLength < size) {data other : Bytes}
    (same : other.length = data.length)
    (agree : ∀ i < data.length, ¬ IsStatus size data.length i → other[i]? = data[i]?) :
    (Received.mk other size).spans = (Received.mk data size).spans := by
  refine List.eq_iff_flatten_eq.mpr ⟨?_, map_length_spans (Nat.zero_lt_of_lt wide) same⟩
  apply List.ext_getElem?
  intro j
  by_cases inside : j < carried size data.length
  · rw [getElem?_flatten_spans wide data inside, getElem?_flatten_spans wide other (same ▸ inside)]
    exact agree _ (place_lt wide inside) (not_isStatus_place wide inside)
  · rw [List.getElem?_eq_none, List.getElem?_eq_none]
    · rw [length_flatten_spans wide]
      exact Nat.le_of_not_lt inside
    · rw [length_flatten_spans wide, same]
      exact Nat.le_of_not_lt inside

/-- What is received of a buffer, told by places. -/
structure ByPlace (buffer : Bytes) (length size : Nat) (r : Received) : Prop where
  packetCount_eq : r.packetCount = min length buffer.length ⌈/⌉ size
  spans_length : r.spans.length = r.packetCount
  /-- Behind `q` whole packets, a rest of at most two bytes adds no payload. -/
  payloadLength_eq : ∀ q rest, min length buffer.length = q * size + rest → rest < size →
    r.payloadLength = q * (size - statusLength) + (rest - statusLength)
  flatten_length : r.spans.flatten.length = r.payloadLength
  byte : ∀ j < r.payloadLength, place size j < min length buffer.length ∧
    r.spans.flatten[j]? = buffer[place size j]?
  /-- Neither status bytes nor bytes behind those received matter. -/
  only : ∀ (other : Bytes) (otherLength : Nat),
    min otherLength other.length = min length buffer.length →
    (∀ i < min length buffer.length, ¬ IsStatus size (min length buffer.length) i →
      other[i]? = buffer[i]?) →
    ∃ same, ofBuffer other otherLength size = .ok same ∧ same.spans = r.spans
  full : ∀ packets, buffer.length = size * packets → buffer.length ≤ length →
    capacity size packets = r.payloadLength

theorem ofBuffer_ok (wide : statusLength < size) (buffer : Bytes) (length : Nat) :
    ofBuffer buffer length size = .ok ⟨buffer.take length, size⟩ := by
  simp only [ofBuffer, wide, if_true]

/-- The payload of any part of any buffer is a map of places. -/
theorem payload_is_place_map (wide : statusLength < size) (buffer : Bytes) (length : Nat) :
    ∃ r, ofBuffer buffer length size = .ok r ∧ r.ByPlace buffer length size := by
  have positive : 0 < size := Nat.zero_lt_of_lt wide
  have clamped : (buffer.take length).length = min length buffer.length := List.length_take
  have payload : (Received.mk (buffer.take length) size).payloadLength =
      carried size (min length buffer.length) := by
    rw [payloadLength_eq, length_flatten_spans wide, clamped]
  have count : (Received.mk (buffer.take length) size).packetCount =
      min length buffer.length ⌈/⌉ size := by
    simp only [packetCount, clamped, Nat.ceilDiv_eq_add_pred_div]
  refine ⟨_, ofBuffer_ok wide buffer length, count, ?_, ?_, (payloadLength_eq _).symm, ?_, ?_, ?_⟩
  · rw [count, length_spans positive, clamped]
  · intro q rest split short
    simp only [payload, split, carried, Nat.mul_add_mod_self_right, Nat.mod_eq_of_lt short]
    rw [Nat.mul_comm q size, Nat.mul_add_div positive, Nat.div_eq_of_lt short, Nat.add_zero]
  · intro j inside
    rw [payload] at inside
    have within := place_lt wide inside
    refine ⟨within, ?_⟩
    rw [getElem?_flatten_spans wide _ (clamped ▸ inside), List.getElem?_take, if_pos (by omega)]
  · intro other otherLength same agree
    refine ⟨_, ofBuffer_ok wide other otherLength, spans_congr wide ?_ ?_⟩
    · rw [List.length_take, same, clamped]
    · intro i inside unread
      rw [clamped] at inside unread
      rw [List.getElem?_take, if_pos (by omega), List.getElem?_take, if_pos (by omega)]
      exact agree i inside unread
  · intro packets whole all
    rw [payload, Nat.min_eq_right all, whole, carried, Nat.mul_div_cancel_left packets positive,
      Nat.mul_mod_right, capacity, Nat.mul_comm]
    omega

/-- Two whole packets of a buffer and one of a single byte; what lies behind it is not received. -/
theorem lone_byte_by_place :
    statusLength < 8 ∧ ∃ r, ofBuffer (List.range 24 |>.map UInt8.ofNat) 17 8 = .ok r ∧
      r.packetCount = 3 ∧ r.payloadLength = 12 ∧ r.spans.flatten[7]? = some 9 := by
  obtain ⟨r, received, places⟩ :=
    payload_is_place_map (by decide : statusLength < 8) (List.range 24 |>.map UInt8.ofNat) 17
  have payload : r.payloadLength = 12 := places.payloadLength_eq 2 1 (by decide) (by decide)
  refine ⟨by decide, r, received, ?_, payload, ?_⟩
  · rw [places.packetCount_eq]
    decide
  · rw [(places.byte 7 (by omega)).2]
    decide

end Received

end BulkStream
