/-!
Faults are broken preconditions. The library reports one instead of going on with a value that
means nothing; a caller that respects the stated precondition never meets it.
-/
namespace BulkStream

inductive Fault
  /-- Packets are too short to hold anything beside their status bytes. -/
  | packetTooShort
  /-- The simulated peripheral was given such a packet size. -/
  | peripheralPacketTooShort
  /-- Records are too short for a counter, or the counter does not advance. -/
  | recordFormat
  /-- A block of memory was asked for that is larger than any can be. -/
  | blockTooLarge
  /-- A slot was handed to the transport without having been lent. -/
  | slotNotLent
  /-- A slot index lies outside the table of `count` slots. -/
  | slotOutOfRange (count index : Nat)
  /-- A count passed the largest 64-bit value. -/
  | countOverflow
  /-- A count would have passed below zero. -/
  | countUnderflow
deriving DecidableEq, Repr

/-- One less than a positive count. -/
def decrement : Nat → Except Fault Nat
  | 0 => .error .countUnderflow
  | n + 1 => .ok n

/-- Counts lie below this, so that they fit 64 bits. -/
def countLimit : Nat := 0x10000000000000000

/-- A sum that is still a count. -/
def addCount (a b : Nat) : Except Fault Nat :=
  if a + b < countLimit then .ok (a + b) else .error .countOverflow

@[simp] theorem decrement_succ (n : Nat) : decrement (n + 1) = .ok n := rfl

end BulkStream
