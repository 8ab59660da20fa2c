import BulkStream.Bytes

/-!
The grammar of a text record: a number, a filler and a number, each after any amount of white
space, and anything behind. A number takes at most six digits and the filler at most 94 bytes that
are not white space; each takes as many as it can and at least one.
-/
namespace BulkStream.Integrity

def isBlank (b : UInt8) : Bool :=
  b == 0x20 || b == 0x09 || b == 0x0a || b == 0x0c || b == 0x0d

def isDigit (b : UInt8) : Bool := 0x30 ≤ b && b ≤ 0x39

/-- Digits that a line number takes at most. -/
def numberWidth : Nat := 6

/-- Bytes that a filler takes at most. -/
def fillerWidth : Nat := 94

/-- Line numbers wrap here. -/
def lineModulus : Nat := 100000

def nextNumber (n : Nat) : Nat := (n + 1) % lineModulus

/-- The longest run of bytes in a class at the front, up to a width. -/
def leadingRun (width : Nat) (inClass : UInt8 → Bool) (bytes : Bytes) : Bytes :=
  (bytes.take width).takeWhile inClass

def skipBlank (bytes : Bytes) : Bytes := bytes.dropWhile isBlank

def decimalValue (digits : Bytes) : Nat := digits.foldl (fun n b => 10 * n + (b.toNat - 0x30)) 0

/-- A non-empty run after white space, and what follows it. -/
def field? (width : Nat) (inClass : UInt8 → Bool) (bytes : Bytes) : Option (Bytes × Bytes) :=
  let rest := skipBlank bytes
  let run := leadingRun width inClass rest
  if run.isEmpty then none else some (run, rest.drop run.length)

structure Line where
  start : Nat
  ended : Nat
deriving DecidableEq, Repr

def Line.ofBytes? (bytes : Bytes) : Option Line := do
  let (first, rest) ← field? numberWidth isDigit bytes
  let (_, rest) ← field? fillerWidth (fun b => !isBlank b) rest
  let (last, _) ← field? numberWidth isDigit rest
  return ⟨decimalValue first, decimalValue last⟩

end BulkStream.Integrity
