import BulkStream.Bytes

/-!
Transfers between the host and a peripheral, and how they fail. A request hands a buffer over to the
transport, a completion hands it back.
-/
namespace BulkStream

inductive Direction
  /-- From the peripheral to the host. -/
  | read
  /-- From the host to the peripheral. -/
  | write
deriving DecidableEq, Repr

def Direction.name : Direction → String
  | .read => "read"
  | .write => "write"

inductive Mode
  /-- No data flows. -/
  | reset
  /-- Data streams continuously. -/
  | syncFifo
deriving DecidableEq, Repr

structure Request where
  /-- Slot that submits the buffer; its completion bears the same. -/
  slot : Nat
  direction : Direction
  buffer : Bytes
  /-- Bytes to move: the size of a read, the valid front of a write. -/
  length : Nat
deriving DecidableEq, Repr

inductive TransferStatus
  | completed
  | cancelled
  | stall
  | timedOut
  | disconnected
  | overflow
  | fault (text : String)
deriving DecidableEq, Repr

def TransferStatus.message : TransferStatus → String
  | .completed => "completed"
  | .cancelled => "cancelled"
  | .stall => "stall"
  | .timedOut => "timed out"
  | .disconnected => "disconnected"
  | .overflow => "overflow"
  | .fault text => "fault: " ++ text

structure Completion where
  slot : Nat
  buffer : Bytes
  /-- Bytes moved; it may lie beyond the buffer, which then counts as full. -/
  length : Nat
  status : TransferStatus
deriving DecidableEq, Repr

inductive TransportError
  | disconnected
  | status (status : TransferStatus)
  | interrupted
  | other (text : String)
deriving DecidableEq, Repr

def TransportError.message : TransportError → String
  | .disconnected => "device disconnected"
  | .status outcome => "transfer status " ++ outcome.message
  | .interrupted => "wait interrupted twice in a row"
  | .other text => text

inductive Flow
  | proceed
  /-- Release the slot that brought the event. -/
  | stop
deriving DecidableEq, Repr

/-- How a bounded wait ends. Whatever completed before is handed over in each case. -/
inductive WaitResult
  | ok
  /-- A signal cut the wait short; it may be tried again. -/
  | interrupted
  | failed (error : TransportError)
deriving DecidableEq, Repr

inductive StreamError
  /-- The peripheral could not be set up; the context says at which point. -/
  | configuration (context : String) (source : TransportError)
  | allocation (slots bufferLength : Nat)
  | submission (slot : Nat) (source : TransportError)
  | transport (source : TransportError)
  | livenessTimeout (milliseconds : Nat)
deriving DecidableEq, Repr

namespace StreamError

def message : StreamError → String
  | .configuration context source =>
      "configuration failed: " ++ context ++ ": " ++ source.message
  | .allocation slots bufferLength =>
      s!"cannot allocate {slots} transfers of {bufferLength} bytes"
  | .submission slot source => s!"submitting transfer {slot} failed: " ++ source.message
  | .transport source => "transport failed: " ++ source.message
  | .livenessTimeout milliseconds => s!"no transfer completed within {milliseconds} ms"

/-- Neither device nor host failed: the peripheral has gone quiet. -/
def isGraceful : StreamError → Bool
  | .livenessTimeout _ => true
  | _ => false

def source? : StreamError → Option TransportError
  | .configuration _ source | .submission _ source | .transport source => some source
  | .allocation _ _ | .livenessTimeout _ => none

/-- The error it names as its cause. A plain transport failure is its own cause. -/
def cause? : StreamError → Option TransportError
  | .configuration _ source | .submission _ source => some source
  | _ => none

end StreamError

end BulkStream
