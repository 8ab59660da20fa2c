import BulkStream.Bytes

/-!
Bytes that arrive in pieces. The latest piece comes first, so that adding one does not move those
before it; read together, the pieces stand in the order of arrival.
-/
namespace BulkStream

structure Pieces where
  latestFirst : List Bytes := []
deriving DecidableEq, Repr

namespace Pieces

def empty : Pieces := {}

def ofBytes (bytes : Bytes) : Pieces := ⟨[bytes]⟩

/-- Add bytes behind all others. -/
def push (p : Pieces) (bytes : Bytes) : Pieces := ⟨bytes :: p.latestFirst⟩

/-- All bytes in order. -/
def toBytes (p : Pieces) : Bytes := p.latestFirst.reverse.flatten

@[simp] theorem toBytes_empty : empty.toBytes = [] := rfl

@[simp] theorem toBytes_ofBytes (bytes : Bytes) : (ofBytes bytes).toBytes = bytes := by
  simp [ofBytes, toBytes]

@[simp] theorem toBytes_push (p : Pieces) (bytes : Bytes) :
    (p.push bytes).toBytes = p.toBytes ++ bytes := by
  simp [push, toBytes]

end Pieces

end BulkStream
