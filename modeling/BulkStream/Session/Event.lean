import BulkStream.Log
import BulkStream.Progress
import BulkStream.Transfer

/-!
Events in the life of a session, the text that a log shows for each, and how important it is.
-/
namespace BulkStream.Session

inductive State
  | idle
  | configuring
  | priming
  | streaming
  | draining
  | terminated
deriving DecidableEq, Repr

def State.name : State → String
  | .idle => "Idle"
  | .configuring => "Configuring"
  | .priming => "Priming"
  | .streaming => "Streaming"
  | .draining => "Draining"
  | .terminated => "Terminated"

inductive Event
  | stateChanged (was now : State)
  /-- Every slot is submitted and the peripheral about to stream. -/
  | primed (direction : Direction) (slots bufferLength : Nat)
  | slotReleased (slot live : Nat)
  | waitInterrupted
  | progress (bytes : Nat) (rate : Option Float)
  | transferFailed (slot : Nat) (status : TransferStatus)
  /-- A wait handed over nothing. -/
  | stalled (milliseconds : Nat)
  | drained (collected abandoned : Nat)
  | finished (bytes transfers milliseconds : Nat)
  | error (message : String)
deriving Repr

namespace Event

def message : Event → String
  | .stateChanged was now => "state " ++ was.name ++ " -> " ++ now.name
  | .primed direction slots bufferLength =>
      "primed direction=" ++ direction.name ++ s!" slots={slots} buffer_len={bufferLength}"
  | .slotReleased slot live => s!"slot_released slot={slot} live={live}"
  | .waitInterrupted => "wait_interrupted retrying"
  | .progress bytes none => s!"progress bytes={bytes}"
  | .progress bytes (some rate) => s!"progress bytes={bytes} rate=" ++ Text.fixedPlaces 0 rate ++ "B/s"
  | .transferFailed slot status => s!"transfer_failed slot={slot} status=" ++ status.message
  | .stalled milliseconds => s!"stalled no completions in {milliseconds}ms"
  | .drained collected abandoned => s!"drained collected={collected} abandoned={abandoned}"
  | .finished bytes transfers milliseconds =>
      s!"finished bytes={bytes} transfers={transfers} elapsed_ms={milliseconds}"
  | .error message => "error: " ++ message

/-- Failures are errors, a stall is a warning, the milestones of a session are for everyone, and what
happens slot by slot or second by second is for debugging. -/
def level : Event → Level
  | .transferFailed _ _ | .error _ => .error
  | .stalled _ => .warn
  | .primed _ _ _ | .drained _ _ | .finished _ _ _ => .info
  | .stateChanged _ _ | .slotReleased _ _ | .waitInterrupted | .progress _ _ => .debug

def component : String := "engine"

def logLine (e : Event) : LogLine :=
  { level := e.level, target := "fifocap_engine::logging", message := e.message
    fields := [("component", "\"" ++ component ++ "\"")] }

end Event

end BulkStream.Session
