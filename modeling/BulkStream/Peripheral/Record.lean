import BulkStream.Integrity.Checker

/-!
The records that the simulated peripheral emits. Records are numbered from zero; with a drop setting
of `n` every record whose number plus one is a multiple of `n` is left out, the very first excepted.
-/
namespace BulkStream.Peripheral

open Integrity

/-- Decimal digits of a number, exactly `width` of them, the lowest kept. -/
def digitBytes : Nat → Nat → Bytes
  | 0, _ => []
  | width + 1, n => digitBytes width (n / 10) ++ [UInt8.ofNat (0x30 + n % 10)]

@[simp] theorem length_digitBytes (width n : Nat) : (digitBytes width n).length = width := by
  induction width generalizing n with
  | zero => rfl
  | succ width ih => simp [digitBytes, ih]

/-- The letters from a to z and from A to Z, over and over. -/
def letter (n : Nat) : UInt8 :=
  UInt8.ofNat (if n % 52 < 26 then 0x61 + n % 52 else 0x41 + (n % 52 - 26))

/-- Filler of the line with the given number; it starts one letter further from line to line. -/
def filler (n : Nat) : Bytes := (List.range fillerWidth).map fun i => letter (n % 26 + i)

def textLine (n : Nat) : Bytes :=
  digitBytes numberWidth n ++ filler n ++ digitBytes numberWidth (nextNumber n) ++ [0x0a]

/-- Bytes of which the last are all alike, so that they need not be held one by one. -/
structure Record where
  head : Bytes
  /-- How many bytes follow the head. -/
  padding : Nat
  /-- What each of them is. -/
  filler : UInt8
deriving DecidableEq, Repr

namespace Record

def toBytes (r : Record) : Bytes := r.head ++ List.replicate r.padding r.filler

def next? : Record → Option (UInt8 × Record)
  | ⟨b :: head, padding, filler⟩ => some (b, ⟨head, padding, filler⟩)
  | ⟨[], padding + 1, filler⟩ => some (filler, ⟨[], padding, filler⟩)
  | ⟨[], 0, _⟩ => none

theorem toBytes_of_next? {r rest : Record} {b : UInt8} (h : r.next? = some (b, rest)) :
    r.toBytes = b :: rest.toBytes := by
  obtain ⟨head, padding, filler⟩ := r
  cases head with
  | cons c head =>
      simp only [next?, Option.some.injEq, Prod.mk.injEq] at h
      obtain ⟨rfl, rfl⟩ := h
      rfl
  | nil =>
      cases padding with
      | zero => simp [next?] at h
      | succ padding =>
          simp only [next?, Option.some.injEq, Prod.mk.injEq] at h
          obtain ⟨rfl, rfl⟩ := h
          simp [toBytes, List.replicate_succ]

theorem next?_eq_none_iff {r : Record} : r.next? = none ↔ r.toBytes = [] := by
  obtain ⟨head, padding, filler⟩ := r
  cases head <;> cases padding <;> simp [next?, toBytes, List.replicate_succ]

end Record

/-- A counter followed by padding, cut or extended to the size of a record. -/
def binaryRecord (format : BinaryFormat) (index : Nat) : Record where
  head := (wordBytes (UInt32.ofNat index * format.stride)).take format.recordSize
  padding := format.recordSize - counterSize
  filler := UInt8.ofNat index

def record (pattern : RecordFormat) (index : Nat) : Record :=
  match pattern with
  | .binary format => binaryRecord format index
  | .text => { head := textLine (index % lineModulus), padding := 0, filler := 0 }

def recordSize : RecordFormat → Nat
  | .binary format => format.recordSize
  | .text => numberWidth + fillerWidth + numberWidth + 1

theorem length_record (pattern : RecordFormat) (index : Nat) :
    (record pattern index).toBytes.length = recordSize pattern := by
  cases pattern with
  | binary format =>
      simp only [record, binaryRecord, Record.toBytes, recordSize, wordBytes, counterSize,
        List.length_append, List.length_take, List.length_replicate, List.length_cons,
        List.length_nil]
      omega
  | text => simp [record, Record.toBytes, recordSize, textLine, filler, Nat.add_assoc]

/-- Number of the record emitted after the one with the given number. -/
def successor (dropEvery : Option Nat) (index : Nat) : Nat :=
  match dropEvery with
  | none => index + 1
  | some n => if 0 < n ∧ (index + 2) % n = 0 then index + 2 else index + 1

/-- An endless source of records, and the part of the current one not read yet. -/
structure RecordSource where
  pattern : RecordFormat
  dropEvery : Option Nat
  index : Nat
  rest : Record
deriving DecidableEq, Repr

namespace RecordSource

def start (pattern : RecordFormat) (dropEvery : Option Nat) : RecordSource :=
  ⟨pattern, dropEvery, 0, record pattern 0⟩

def advance (s : RecordSource) : RecordSource :=
  let index := successor s.dropEvery s.index
  { s with index, rest := record s.pattern index }

/-- The next byte, taken from the record that follows once the current one is used up. Where records
are empty there is no next byte, and a zero stands in for it. -/
def next (s : RecordSource) : UInt8 × RecordSource :=
  match s.rest.next? with
  | some (b, rest) => (b, { s with rest })
  | none =>
      let s := s.advance
      match s.rest.next? with
      | some (b, rest) => (b, { s with rest })
      | none => (0, s)

/-- Append the next `n` bytes to those read so far. -/
def readOnto : Nat → RecordSource → Array UInt8 → Array UInt8 × RecordSource
  | 0, s, read => (read, s)
  | n + 1, s, read =>
      let (b, s) := s.next
      readOnto n s (read.push b)

def read (n : Nat) (s : RecordSource) : Bytes × RecordSource :=
  let (bytes, s) := readOnto n s #[]
  (bytes.toList, s)

end RecordSource

end BulkStream.Peripheral
