import BulkStream.Bytes
import BulkStream.Fault
import BulkStream.Integrity.Report

/-!
Checking of binary records. A record has a fixed size and starts with a little-endian counter that
grows by a fixed stride from record to record, modulo 2^32. A stream comes in chunks that may cut
records anywhere; the beginning of a record is held until the rest of it comes.
-/
namespace BulkStream.Integrity

structure BinaryFormat where
  recordSize : Nat := 16
  stride : UInt32 := 0x4000
deriving DecidableEq, Repr, Inhabited

def counterSize : Nat := 4

/-- A record can hold its counter, and the counter advances. -/
def BinaryFormat.IsValid (f : BinaryFormat) : Prop := counterSize ≤ f.recordSize ∧ 0 < f.stride

instance (f : BinaryFormat) : Decidable f.IsValid := by
  unfold BinaryFormat.IsValid
  infer_instance

theorem BinaryFormat.IsValid.positive {f : BinaryFormat} (valid : f.IsValid) : 0 < f.recordSize :=
  Nat.lt_of_lt_of_le (by decide) valid.1

/-- Blocks lost in a jump to `counter` where `expected` was due. A jump of half the counter range
or more is a jump back, which loses none. -/
def missedBlocks (stride expected counter : UInt32) : Nat :=
  if counter - expected < 0x80000000 then ((counter - expected) / stride).toNat - 1 else 0

def discontinuity? (stride : UInt32) (previous : Option UInt32) (counter : UInt32) :
    Option Anomaly :=
  match previous with
  | none => none
  | some p =>
      if counter = p + stride then none
      else some (.discontinuity (p + stride) counter (missedBlocks stride (p + stride) counter))

structure BinaryChecker where
  format : BinaryFormat
  previous : Option UInt32 := none
  held : Array UInt8 := #[]
  journal : Journal := {}
  finished : Bool := false
deriving DecidableEq, Repr

namespace BinaryChecker

/-- A checker that has seen nothing. It has room for a whole record. -/
def ofFormat (format : BinaryFormat) : Except Fault BinaryChecker :=
  if ¬format.IsValid then .error .recordFormat
  else if memoryLimit < format.recordSize then .error .blockTooLarge
  else .ok { format }

def examine (c : BinaryChecker) (counter : UInt32) : BinaryChecker :=
  let journal := c.journal.countRecord
  { c with
    previous := some counter
    journal :=
      match discontinuity? c.format.stride c.previous counter with
      | none => journal
      | some anomaly => journal.note anomaly }

/-- Account for a record, unless it is too short for a counter. -/
def examineRecord (c : BinaryChecker) (record : Bytes) : BinaryChecker :=
  match leadingWord? record with
  | none => c
  | some counter => c.examine counter

def settle (c : BinaryChecker) : BinaryChecker :=
  { c.examineRecord c.held.toList with held := #[] }

def keep (c : BinaryChecker) (bytes : Bytes) : BinaryChecker := { c with held := c.held ++ bytes }

/-- Fill up the record in progress, if there is one, from a chunk. What is left of the chunk starts a
record. -/
def topUp (c : BinaryChecker) (chunk : Bytes) : BinaryChecker × Bytes :=
  if c.held.isEmpty then (c, chunk)
  else
    let missing := c.format.recordSize - c.held.size
    let c := c.keep (chunk.take missing)
    if c.held.size < c.format.recordSize then (c, []) else (c.settle, chunk.drop missing)

/-- Account for a block cut from the front of a chunk. One too short for a record is held. -/
def scan (c : BinaryChecker) (block : Bytes) : BinaryChecker :=
  if block.length < c.format.recordSize then c.keep block else c.examineRecord block

def feed (c : BinaryChecker) (chunk : Bytes) : BinaryChecker :=
  let (c, rest) := c.topUp chunk
  (blocks c.format.recordSize rest).foldl scan c

/-- Account for a short last record; only the first call does. -/
def finish (c : BinaryChecker) : BinaryChecker :=
  if c.finished then c else { c.settle with finished := true }

def report (c : BinaryChecker) : Report := c.journal.report

end BinaryChecker

end BulkStream.Integrity
