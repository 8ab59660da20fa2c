import BulkStream.Integrity.Checker
import BulkStream.Pieces
import BulkStream.Session.Assembly

/-!
A consumer that follows rules: which events of a kind it answers with a stop, and at which it raises
the stop flag. It keeps what it was given.
-/
namespace BulkStream.Rehearsal

open Session

/-- Rule for the events of one kind, by their ordinal from zero. -/
structure Rule where
  stop : List Nat := []
  /-- From this event on every answer is to stop. -/
  stopFrom : Option Nat := none
  /-- Events that raise the stop flag. -/
  raise : List Nat := []
  /-- Buffers to be filled are left as they are. -/
  keep : Bool := false
deriving DecidableEq, Repr

def Rule.flow (r : Rule) (ordinal : Nat) : Flow :=
  if r.stop.contains ordinal || r.stopFrom.any (· ≤ ordinal) then .stop else .proceed

structure Audience where
  onPayload : Rule := {}
  onFill : Rule := {}
  onProgress : Rule := {}
  payloads : Nat := 0
  fills : Nat := 0
  samples : Nat := 0
  /-- Payload spans. -/
  delivered : Pieces := .empty
  checker : Option Integrity.Checker := none
  stopRequested : Bool := false
deriving DecidableEq, Repr

namespace Audience

def payload (a : Audience) : Bytes := a.delivered.toBytes

def consumer : Consumer Audience where
  payload span a :=
    (a.onPayload.flow a.payloads,
     { a with
        payloads := a.payloads + 1
        delivered := a.delivered.push span
        checker := a.checker.map (·.feed span)
        stopRequested := a.stopRequested || a.onPayload.raise.contains a.payloads })
  fill buffer a :=
    let left :=
      if a.onFill.keep then buffer
      else List.replicate buffer.length (UInt8.ofNat (a.fills + 1))
    ((a.onFill.flow a.fills, left),
     { a with
        fills := a.fills + 1
        stopRequested := a.stopRequested || a.onFill.raise.contains a.fills })
  progress _ a :=
    (a.onProgress.flow a.samples,
     { a with
        samples := a.samples + 1
        stopRequested := a.stopRequested || a.onProgress.raise.contains a.samples })
  log _ a := a
  stopRequested a := a.stopRequested

end Audience

end BulkStream.Rehearsal
