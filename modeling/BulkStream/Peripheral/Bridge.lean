import BulkStream.Transfer

/-!
What is known of a USB bridge without one at hand: how its packet size is found among the endpoints
it describes, what its transfer errors mean, and that it needs an event loop to be opened.
-/
namespace BulkStream.Peripheral

structure Endpoint where
  address : Nat
  packetSize : Nat
deriving DecidableEq, Repr

/-- Packet size of the first endpoint with an address. A description without a size is passed over. -/
def packetSize? (address : Nat) (endpoints : List Endpoint) : Option Nat :=
  (endpoints.find? fun e => e.address = address ∧ 0 < e.packetSize).map (·.packetSize)

inductive BusError
  | cancelled
  | stall
  | disconnected
  | fault
  | unknown
deriving DecidableEq, Repr

def BusError.status : BusError → TransferStatus
  | .cancelled => .cancelled
  | .stall => .stall
  | .disconnected => .disconnected
  | .fault => .fault "hardware fault or protocol violation"
  | .unknown => .fault "unknown error"

inductive BridgeError
  /-- There is no event loop to await transfers on. -/
  | noEventLoop
deriving DecidableEq, Repr

namespace BridgeError

def message : BridgeError → String
  | .noEventLoop => "USB transport needs a tokio runtime"

def causes : BridgeError → List String
  | .noEventLoop =>
      ["there is no reactor running, must be called from the context of a Tokio 1.x runtime"]

end BridgeError

/-- What keeps a bridge from being looked for. -/
def obstacle? (eventLoopRuns : Bool) : Option BridgeError :=
  if eventLoopRuns then none else some .noEventLoop

end BulkStream.Peripheral
