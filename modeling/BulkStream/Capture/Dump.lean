import BulkStream.Storage.Rewinding
import BulkStream.Storage.Writer

/-!
The dump file of a capture: what is received is written to it, or what is sent is read from it.
-/
namespace BulkStream.Capture

open Storage

/-- The operations a capture needs of its dump. -/
structure DumpFile (δ : Type) where
  /-- Write bytes behind those before; they may be held back until the flush. -/
  write : Bytes → δ → Except DiskError Unit × δ
  flush : δ → Except DiskError Unit × δ
  /-- Read as many bytes as asked for, from the beginning again at the end of the file. -/
  fill : Nat → δ → Filled × δ

inductive DumpUse
  | none
  | output
  | input
deriving DecidableEq, Repr

inductive Handle
  | none
  | output (writer : Writer)
  | input (input : OpenInput)
deriving DecidableEq, Repr

/-- The disk, and the dump opened on it. -/
structure OpenDump where
  disk : Disk
  handle : Handle
deriving DecidableEq, Repr

namespace OpenDump

def use (d : OpenDump) : DumpUse :=
  match d.handle with
  | .none => .none
  | .output _ => .output
  | .input _ => .input

/-- Let the writer answer; without one there is nothing to do. -/
def onWriter (f : Writer → Disk → Except DiskError Unit × Writer × Disk) (d : OpenDump) :
    Except DiskError Unit × OpenDump :=
  match d.handle with
  | .output writer =>
      let (result, writer, disk) := f writer d.disk
      (result, { disk, handle := .output writer })
  | _ => (.ok (), d)

def operations : DumpFile OpenDump where
  write bytes := onWriter (·.write bytes)
  flush := onWriter Writer.flush
  fill count d :=
    match d.handle with
    | .input input =>
        let (filled, input) := input.fill count
        (filled, { d with handle := .input input })
    | _ => (⟨[], Option.none⟩, d)

end OpenDump

end BulkStream.Capture
