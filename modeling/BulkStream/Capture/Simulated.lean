import BulkStream.Capture.Outcome
import BulkStream.Peripheral.Fifo

/-!
Captures from the simulated peripheral, the only one that there is.
-/
namespace BulkStream.Capture

open Peripheral Session Settings

/-- A clock that stands until it is set, and nobody who asks for a stop. -/
def clock : Outside Nat where
  meanwhile _ time := time
  now time := (time, time)
  stopRequested _ := false

/-- Requests to stop, ahead of a capture or in the course of it. -/
structure Interruption where
  /-- A stop is requested before the capture begins. -/
  beforehand : Bool := false
  signal : Option Signal := none
deriving DecidableEq, Repr

/-- A capture before its session: what it runs among, or why it cannot run. -/
inductive Preparation (δ : Type)
  | ready (world : World Fifo Nat δ)
  | failed (failure : Failure) (dump : δ)

def prepare {δ : Type} (o : CaptureOptions) (interruption : Interruption) (sink : Sink δ) :
    Except Fault (Preparation δ) := do
  if o.simulate then
    let recorder : Recorder δ :=
      { sink, signal := interruption.signal, stopRequested := interruption.beforehand }
    return .ready {
      transport := ← Fifo.ofConfig o.peripheralConfig
      outside := 0
      consumer := recorder.note (logLine .info "Using simulated peripheral") }
  else return .failed .noDevice sink.dump

structure Captured where
  result : Except Failure Outcome
  lines : List LogLine
  disk : Storage.Disk
  stopRequested : Bool

/-- A capture that fails before its session. -/
def Captured.failedEarly (failure : Failure) (disk : Storage.Disk) (interruption : Interruption) :
    Captured :=
  { result := .error failure, lines := [], disk, stopRequested := interruption.beforehand }

/-- Capture from the simulated peripheral in at most so many steps. -/
def capture (o : CaptureOptions) (disk : Storage.Disk) (interruption : Interruption) (steps : Nat) :
    Except Fault (Option Captured) := do
  match openSink o disk with
  | .error failure => return some (.failedEarly failure disk interruption)
  | .ok sink =>
      match ← prepare o interruption sink with
      | .failed failure dump => return some (.failedEarly failure dump.disk interruption)
      | .ready world =>
          let ended ← runSession Fifo.transport clock OpenDump.operations o.sessionConfig steps world
          return ended.map fun (result, link) =>
            let recorder := link.world.consumer
            { result, lines := recorder.lines, disk := recorder.sink.dump.disk
              stopRequested := recorder.stopRequested }

end BulkStream.Capture
