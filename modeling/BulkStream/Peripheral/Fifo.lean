import BulkStream.Packet
import BulkStream.Peripheral.Record
import BulkStream.Pieces
import BulkStream.Queue
import BulkStream.Transport

/-!
A peripheral in memory. It frames its record stream into packets as a device does, each ended by two
status bytes, and takes what is written to it. Data flows only in streaming mode. Faults are set by
count, so that a session can be repeated:

- with a stall after `n`, no transfer completes once `n` have;
- with a fault after `n`, every transfer past the `n`-th completes with a stall status.
-/
namespace BulkStream.Peripheral

open Integrity

structure Config where
  packetSize : Nat := 512
  pattern : RecordFormat := .binary {}
  /-- Lose every so many-th record. -/
  dropEvery : Option Nat := none
  stallAfter : Option Nat := none
  faultAfter : Option Nat := none
  /-- Bytes a second. Pacing takes time and changes nothing else. -/
  rate : Option Nat := none
  /-- Most completions handed over by one wait. -/
  batch : Option Nat := none
  keepWrites : Bool := false
deriving DecidableEq, Repr

def trailer : Bytes := [0x31, 0x60]

/-- Sizes of the packets that a transfer of `length` bytes consists of. -/
def packetSizes (packetSize length : Nat) : List Nat :=
  List.replicate (length / packetSize) packetSize ++
    (if length % packetSize = 0 then [] else [length % packetSize])

/-- Payload that fits a packet, which may be short, and as much of the trailer as fits behind. -/
def framePacket (packetSize size : Nat) (source : RecordSource) : Bytes × RecordSource :=
  let payload := min size (packetSize - Packet.statusLength)
  let (data, source) := source.read payload
  (data ++ trailer.take (size - payload), source)

def framePackets (packetSize : Nat) : List Nat → RecordSource → Bytes × RecordSource
  | [], source => ([], source)
  | size :: sizes, source =>
      let (packet, source) := framePacket packetSize size source
      let (packets, source) := framePackets packetSize sizes source
      (packet ++ packets, source)

/-- The next `length` bytes that the host receives. -/
def frame (packetSize length : Nat) (source : RecordSource) : Bytes × RecordSource :=
  framePackets packetSize (packetSizes packetSize length) source

structure Fifo where
  config : Config
  source : RecordSource
  mode : Mode := .reset
  queue : Queue Request := .empty
  /-- Transfers to be handed back as cancelled. -/
  cancelled : List Request := []
  /-- Transfers completed other than by cancellation. -/
  completed : Nat := 0
  received : Pieces := .empty
  modes : List Mode := []
  flushes : Nat := 0
deriving DecidableEq, Repr

namespace Fifo

/-- A peripheral that has not been used. Its packets must hold more than their status, and it has
room for a whole record. -/
def ofConfig (config : Config) : Except Fault Fifo :=
  if config.packetSize ≤ Packet.statusLength then .error .peripheralPacketTooShort
  else if memoryLimit < recordSize config.pattern then .error .blockTooLarge
  else .ok { config, source := .start config.pattern config.dropEvery }

def written (f : Fifo) : Bytes := f.received.toBytes

def pending (f : Fifo) : Nat := f.queue.length + f.cancelled.length

def setMode (mode : Mode) (f : Fifo) : Fifo := { f with mode, modes := f.modes ++ [mode] }

def refusal (r : Request) : TransportError :=
  .other s!"transfer length {r.length} exceeds buffer of {r.buffer.length} bytes"

def submit (r : Request) (f : Fifo) : Except TransportError Unit × Fifo :=
  if r.buffer.length < r.length then (.error (refusal r), f)
  else (.ok (), { f with queue := f.queue.push r })

def complete (r : Request) (f : Fifo) : Completion × Fifo :=
  let f := { f with completed := f.completed + 1 }
  if f.config.faultAfter.any (· < f.completed) then
    ({ slot := r.slot, buffer := r.buffer, length := 0, status := .stall }, f)
  else
    match r.direction with
    | .read =>
        let (data, source) := frame f.config.packetSize r.length f.source
        ({ slot := r.slot, buffer := data ++ r.buffer.drop r.length, length := r.length
           status := .completed },
         { f with source })
    | .write =>
        ({ slot := r.slot, buffer := r.buffer, length := r.length, status := .completed },
         if f.config.keepWrites then { f with received := f.received.push (r.buffer.take r.length) }
         else f)

def isStalled (f : Fifo) : Bool := f.config.stallAfter.any (· ≤ f.completed)

/-- Complete at most `budget` transfers in the order submitted. -/
def serve : Nat → Fifo → List Completion × Fifo
  | 0, f => ([], f)
  | budget + 1, f =>
      if f.isStalled then ([], f)
      else
        match f.queue.pop? with
        | none => ([], f)
        | some (r, queue) =>
            let (completion, f) := complete r { f with queue }
            let (completions, f) := serve budget f
            (completion :: completions, f)

def cancelledCompletion (r : Request) : Completion :=
  { slot := r.slot, buffer := r.buffer, length := 0, status := .cancelled }

/-- Hand back what was cancelled, or else what completes now. -/
def wait (f : Fifo) : List Completion × Fifo :=
  if f.cancelled ≠ [] then (f.cancelled.map cancelledCompletion, { f with cancelled := [] })
  else if f.mode = .syncFifo then serve (f.config.batch.getD f.queue.length) f
  else ([], f)

def cancelAll (f : Fifo) : Fifo :=
  { f with queue := .empty, cancelled := f.cancelled ++ f.queue.toList }

/-- The peripheral as a transport; its only failure is a transfer longer than its buffer. -/
def transport : Transport Fifo where
  packetSize f := f.config.packetSize
  setMode mode f := (.ok (), f.setMode mode)
  purge f := (.ok (), { f with flushes := f.flushes + 1 })
  submit := submit
  wait _ f :=
    let (completions, f) := f.wait
    ((.ok, completions), f)
  cancelAll := cancelAll

end Fifo

end BulkStream.Peripheral
