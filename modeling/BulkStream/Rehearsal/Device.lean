import BulkStream.Peripheral.Fifo

/-!
A transport that plays a script. Each wait takes the next step of the script, which says what
completes, with which data and status, and how the wait ends. Submits and mode changes can be made to
fail by their ordinal. With the script at its end, waits hand back what was cancelled, or nothing.
-/
namespace BulkStream.Rehearsal

/-- Errors of calls of one kind, by their ordinal from zero. -/
abbrev Refusals := List (Nat × TransportError)

def Refusals.answer (refusals : Refusals) (ordinal : Nat) : Except TransportError Unit :=
  match refusals.lookup ordinal with
  | some error => .error error
  | none => .ok ()

/-- One transfer to complete, as often as `times` says. -/
structure Cue where
  /-- Its slot; without one, the oldest transfer completes. -/
  slot : Option Nat := none
  times : Nat := 1
  /-- Bytes received; without them every byte is the ordinal of the completion. -/
  data : Option Bytes := none
  /-- Length reported, if not that of the request. -/
  length : Option Nat := none
  status : TransferStatus := .completed
  /-- Length of the buffer handed back, if it is to change. -/
  bufferLength : Option Nat := none
deriving DecidableEq, Repr

def Cue.isOversized (cue : Cue) : Bool := cue.bufferLength.any (memoryLimit < ·)

structure WaitStep where
  cues : List Cue := []
  result : WaitResult := .ok
deriving DecidableEq, Repr

structure Script where
  packetSize : Nat := 8
  failSetMode : Refusals := []
  failPurge : Refusals := []
  failSubmit : Refusals := []
  /-- Steps not yet played. -/
  steps : List WaitStep := []
  /-- Cancelled transfers never come back. -/
  lostCancel : Bool := false
  queue : Queue Request := .empty
  modeCalls : Nat := 0
  purgeCalls : Nat := 0
  submitCalls : Nat := 0
  waitCalls : Nat := 0
  completions : Nat := 0
  cancelRequested : Bool := false
  /-- An oversized cue has been played. What comes after means nothing. -/
  broken : Bool := false
deriving DecidableEq, Repr

namespace Script

/-- The first request for a slot, and the queue without it. -/
def takeSlot (slot : Nat) : List Request → Option (Request × List Request)
  | [] => none
  | r :: queue =>
      if r.slot = slot then some (r, queue)
      else (takeSlot slot queue).map fun (found, rest) => (found, r :: rest)

def madeUp (slot : Nat) : Request := { slot, direction := .read, buffer := [], length := 0 }

/-- The request that a cue completes, and the queue without it. -/
def choose (cue : Cue) (queue : Queue Request) : Option (Request × Queue Request) :=
  match cue.slot with
  | some slot =>
      match takeSlot slot queue.toList with
      | some (r, rest) => some (r, { oldest := rest })
      | none => some (madeUp slot, queue)
  | none => queue.pop?

def filled (cue : Cue) (ordinal : Nat) (r : Request) : Bytes :=
  if r.direction = .read ∧ cue.status = .completed then
    match cue.data with
    | some data => data.take r.buffer.length ++ r.buffer.drop data.length
    | none => List.replicate r.buffer.length (UInt8.ofNat ordinal)
  else r.buffer

def completion (cue : Cue) (ordinal : Nat) (r : Request) : Completion :=
  let buffer := filled cue ordinal r
  { slot := r.slot
    buffer := match cue.bufferLength with
      | some length => if cue.isOversized then buffer else fit length buffer
      | none => buffer
    length := cue.length.getD r.length
    status := cue.status }

def play (cue : Cue) : Nat → Script → List Completion × Script
  | 0, s => ([], s)
  | times + 1, s =>
      match choose cue s.queue with
      | none => play cue times s
      | some (r, queue) =>
          let ordinal := s.completions + 1
          let broken := s.broken || cue.isOversized
          let (completions, s) := play cue times { s with queue, completions := ordinal, broken }
          (completion cue ordinal r :: completions, s)

def playAll : List Cue → Script → List Completion × Script
  | [], s => ([], s)
  | cue :: cues, s =>
      let (first, s) := play cue cue.times s
      let (rest, s) := playAll cues s
      (first ++ rest, s)

/-- A wait past the end of the script. -/
def waitIdle (s : Script) : List Completion × Script :=
  if s.cancelRequested && !s.lostCancel then
    (s.queue.toList.map Peripheral.Fifo.cancelledCompletion, { s with queue := .empty })
  else ([], s)

def wait (s : Script) : (WaitResult × List Completion) × Script :=
  let s := { s with waitCalls := s.waitCalls + 1 }
  match s.steps with
  | [] =>
      let (completions, s) := s.waitIdle
      ((.ok, completions), s)
  | step :: steps =>
      let (completions, s) := playAll step.cues { s with steps }
      ((step.result, completions), s)

def submit (r : Request) (s : Script) : Except TransportError Unit × Script :=
  let answer := Refusals.answer s.failSubmit s.submitCalls
  let s := { s with submitCalls := s.submitCalls + 1 }
  match answer with
  | .ok () => (.ok (), { s with queue := s.queue.push r })
  | .error error => (.error error, s)

def transport : Transport Script where
  packetSize s := s.packetSize
  setMode _ s :=
    (Refusals.answer s.failSetMode s.modeCalls, { s with modeCalls := s.modeCalls + 1 })
  purge s := (Refusals.answer s.failPurge s.purgeCalls, { s with purgeCalls := s.purgeCalls + 1 })
  submit := submit
  wait _ s := s.wait
  cancelAll s := { s with cancelRequested := true }

end Script

inductive Device
  | simulated (fifo : Peripheral.Fifo)
  | scripted (script : Script)
deriving DecidableEq, Repr

namespace Device

open Peripheral

def fault? : Device → Option Fault
  | .simulated _ => none
  | .scripted script => if script.broken then some .blockTooLarge else none

def answer {α : Type} (onFifo : Fifo → α × Fifo) (onScript : Script → α × Script) :
    Device → α × Device
  | .simulated f =>
      let (a, f) := onFifo f
      (a, .simulated f)
  | .scripted s =>
      let (a, s) := onScript s
      (a, .scripted s)

def transport : Transport Device where
  packetSize
    | .simulated f => Fifo.transport.packetSize f
    | .scripted s => Script.transport.packetSize s
  setMode mode := answer (Fifo.transport.setMode mode) (Script.transport.setMode mode)
  purge := answer Fifo.transport.purge Script.transport.purge
  submit request := answer (Fifo.transport.submit request) (Script.transport.submit request)
  wait milliseconds := answer (Fifo.transport.wait milliseconds) (Script.transport.wait milliseconds)
  cancelAll
    | .simulated f => .simulated (Fifo.transport.cancelAll f)
    | .scripted s => .scripted (Script.transport.cancelAll s)

end Device

end BulkStream.Rehearsal
