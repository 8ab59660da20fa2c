import BulkStream.Fault
import BulkStream.Transfer

/-!
A fixed set of transfer slots. A slot's buffer is with the pool (held), with the session (lent),
with the transport (in flight) or gone for good (released). The pool counts the slots in flight and
those not released, so that a session can ask for either at no cost.
-/
namespace BulkStream

inductive Slot
  /-- Allocated and never submitted. -/
  | held (buffer : Bytes)
  | lent
  | inFlight
  /-- Never submitted again. -/
  | released
deriving DecidableEq, Repr

namespace Slot

def isInFlight : Slot → Bool
  | .inFlight => true
  | _ => false

def isReleased : Slot → Bool
  | .released => true
  | _ => false

end Slot

structure Pool where
  slots : Array Slot
  direction : Direction
  bufferLength : Nat
  /-- Slots owned by the transport. -/
  inFlight : Nat
  /-- Slots not released. -/
  live : Nat
deriving DecidableEq, Repr

/-- What comes of handing buffers to a transport whose state is `σ`. -/
structure Handover (σ : Type) where
  result : Except StreamError Unit
  pool : Pool
  world : σ

namespace Pool

/-- Memory that a slot takes in the table beside its buffer. -/
def slotFootprint : Nat := 32

/-- Slots with a zeroed buffer of `packetsPerTransfer` packets each. A size past 64 bits counts as
none at all. -/
def allocate (direction : Direction) (packetSize packetsPerTransfer transferCount : Nat) :
    Except StreamError Pool :=
  let product := packetSize * packetsPerTransfer
  let bufferLength := if product < countLimit then product else 0
  if bufferLength = 0 ∨ transferCount = 0 ∨ memoryLimit < bufferLength ∨
      memoryLimit < transferCount * slotFootprint then
    .error (.allocation transferCount bufferLength)
  else
    .ok {
      slots := Array.replicate transferCount (.held (List.replicate bufferLength 0))
      direction, bufferLength, inFlight := 0, live := transferCount }

def capacity (p : Pool) : Nat := p.slots.size

def released (p : Pool) : Nat := p.capacity - p.live

def setSlot (p : Pool) (index : Nat) (slot : Slot) : Pool :=
  { p with slots := p.slots.setIfInBounds index slot }

/-- Lend out the buffer of a slot that was never submitted. -/
def take (p : Pool) (index : Nat) : Option (Bytes × Pool) :=
  match p.slots[index]? with
  | some (.held buffer) => some (buffer, p.setSlot index .lent)
  | _ => none

def notInFlight (index : Nat) : StreamError :=
  .transport (.other s!"completion for slot {index} which is not in flight")

/-- Take back a slot from the transport; its buffer is lent to the caller. -/
def complete (p : Pool) (index : Nat) : Except Fault (Except StreamError Unit × Pool) :=
  match p.slots[index]? with
  | some .inFlight => do
      let inFlight ← decrement p.inFlight
      return (.ok (), { p.setSlot index .lent with inFlight })
  | _ => .ok (.error (notInFlight index), p)

/-- Free a slot for good. One that is in flight, released or not there is left alone. -/
def release (p : Pool) (index : Nat) : Except Fault Pool :=
  match p.slots[index]? with
  | some (.held _) | some .lent => do
      let live ← decrement p.live
      return { p.setSlot index .released with live }
  | _ => .ok p

def forget (p : Pool) (index : Nat) : Except Fault Pool :=
  match p.slots[index]? with
  | some .inFlight => do
      let inFlight ← decrement p.inFlight
      let live ← decrement p.live
      return { p.setSlot index .released with inFlight, live }
  | _ => .ok p

def releaseIdle (p : Pool) : Except Fault Pool := (List.range p.capacity).foldlM release p

/-- Release the slots whose completions will never come. -/
def abandonInFlight (p : Pool) : Except Fault Pool := (List.range p.capacity).foldlM forget p

/-- Hand a lent buffer to the transport, cut or extended to the full length. If the transport
refuses, the buffer is lost and the slot released. -/
def resubmit {σ : Type} (submit : Request → σ → Except TransportError Unit × σ) (p : Pool)
    (index : Nat) (buffer : Bytes) (world : σ) : Except Fault (Handover σ) :=
  match p.slots[index]? with
  | none => .error (.slotOutOfRange p.capacity index)
  | some .lent =>
      let request : Request :=
        { slot := index, direction := p.direction, buffer := fit p.bufferLength buffer
          length := p.bufferLength }
      let launched := { p.setSlot index .inFlight with inFlight := p.inFlight + 1 }
      match submit request world with
      | (.ok (), world) => .ok ⟨.ok (), launched, world⟩
      | (.error source, world) => do
          return ⟨.error (.submission index source), ← launched.forget index, world⟩
  | some _ => .error .slotNotLent

/-- Submit a slot that was never submitted. A write buffer is filled first; where filling stops,
the slot is released instead. -/
def primeSlot {σ : Type} (submit : Request → σ → Except TransportError Unit × σ)
    (fill : Nat → Bytes → σ → (Flow × Bytes) × σ) (p : Pool) (index : Nat) (world : σ) :
    Except Fault (Handover σ) :=
  match p.slots[index]? with
  | some (.held buffer) =>
      let lent := p.setSlot index .lent
      match p.direction with
      | .read => lent.resubmit submit index buffer world
      | .write =>
          match fill index buffer world with
          | ((.proceed, filled), world) => lent.resubmit submit index filled world
          | ((.stop, _), world) => do return ⟨.ok (), ← lent.release index, world⟩
  | _ => .ok ⟨.ok (), p, world⟩

/-- Prime slots in turn up to the first that the transport refuses. -/
def primeSlots {σ : Type} (submit : Request → σ → Except TransportError Unit × σ)
    (fill : Nat → Bytes → σ → (Flow × Bytes) × σ) :
    List Nat → Pool → σ → Except Fault (Handover σ)
  | [], p, world => .ok ⟨.ok (), p, world⟩
  | index :: rest, p, world => do
      let handover ← p.primeSlot submit fill index world
      match handover.result with
      | .ok () => primeSlots submit fill rest handover.pool handover.world
      | .error _ => return handover

def prime {σ : Type} (submit : Request → σ → Except TransportError Unit × σ)
    (fill : Nat → Bytes → σ → (Flow × Bytes) × σ) (p : Pool) (world : σ) :
    Except Fault (Handover σ) :=
  primeSlots submit fill (List.range p.capacity) p world

@[simp] theorem capacity_setSlot (p : Pool) (index : Nat) (slot : Slot) :
    (p.setSlot index slot).capacity = p.capacity := by
  simp [setSlot, capacity]

@[simp] theorem setSlot_direction (p : Pool) (index : Nat) (slot : Slot) :
    (p.setSlot index slot).direction = p.direction := rfl

@[simp] theorem setSlot_bufferLength (p : Pool) (index : Nat) (slot : Slot) :
    (p.setSlot index slot).bufferLength = p.bufferLength := rfl

end Pool

end BulkStream
