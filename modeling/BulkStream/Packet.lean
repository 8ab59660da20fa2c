import BulkStream.Bytes
import BulkStream.Fault

/-!
Packets of a completed transfer. The received bytes are a run of packets of one size, the last
one possibly short, and each packet ends in two status bytes that carry no payload.
-/
namespace BulkStream

namespace Packet

def statusLength : Nat := 2

/-- What a packet carries: all but its status bytes. -/
def payload (packet : Bytes) : Bytes := packet.take (packet.length - statusLength)

/-- Payload bytes that a number of full packets carry. -/
def capacity (size packets : Nat) : Nat := (size - statusLength) * packets

end Packet

/-- The received part of a buffer together with the size of its packets. -/
structure Received where
  data : Bytes
  packetSize : Nat
deriving DecidableEq, Repr

namespace Received

/-- The first `length` bytes of a buffer; a length beyond the buffer means all of it. -/
def ofBuffer (buffer : Bytes) (length packetSize : Nat) : Except Fault Received :=
  if Packet.statusLength < packetSize then .ok ⟨buffer.take length, packetSize⟩
  else .error .packetTooShort

/-- Payload spans in buffer order, one for each packet, empty ones included. -/
def spans (r : Received) : List Bytes := (blocks r.packetSize r.data).map Packet.payload

/-- Packets received, a short last one included. -/
def packetCount (r : Received) : Nat := (r.data.length + r.packetSize - 1) / r.packetSize

def payloadLength (r : Received) : Nat := r.spans.foldl (fun total span => total + span.length) 0

end Received

end BulkStream
