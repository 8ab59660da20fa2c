/-!
Byte strings, and the ways the library reads or shapes them: a buffer is cut or extended with zeros
to a length, a run of bytes is cut into blocks, and the first four bytes of a record are a
little-endian word.
-/
namespace BulkStream

abbrev Bytes := List UInt8

/-- Bytes in the largest block of memory that there can be. -/
def memoryLimit : Nat := 0x7fffffffffffffff

/-- The first `n` bytes, followed by zeros where there are fewer. -/
def fit (n : Nat) (bytes : Bytes) : Bytes :=
  bytes.take n ++ List.replicate (n - bytes.length) 0

@[simp] theorem length_fit (n : Nat) (bytes : Bytes) : (fit n bytes).length = n := by
  simp only [fit, List.length_append, List.length_take, List.length_replicate]
  omega

theorem fit_of_length_eq {n : Nat} {bytes : Bytes} (h : bytes.length = n) : fit n bytes = bytes := by
  subst h
  simp [fit]

/-- Bytes cut into blocks of `size` bytes; only the last may be shorter. -/
def blocks (size : Nat) : Bytes → List Bytes
  | [] => []
  | b :: rest => (b :: rest.take (size - 1)) :: blocks size (rest.drop (size - 1))
termination_by bytes => bytes.length
decreasing_by simp only [List.length_drop, List.length_cons]; omega

/-- The four bytes of a word, lowest first. -/
def wordBytes (w : UInt32) : Bytes :=
  [.ofNat w.toNat, .ofNat (w.toNat / 0x100), .ofNat (w.toNat / 0x10000),
    .ofNat (w.toNat / 0x1000000)]

/-- The word in the first four bytes, if there are that many. -/
def leadingWord? : Bytes → Option UInt32
  | a :: b :: c :: d :: _ =>
      some (.ofNat (a.toNat + 0x100 * b.toNat + 0x10000 * c.toNat + 0x1000000 * d.toNat))
  | _ => none

theorem leadingWord?_wordBytes_append (w : UInt32) (rest : Bytes) :
    leadingWord? (wordBytes w ++ rest) = some w := by
  have h := w.toNat_lt
  simp only [wordBytes, List.cons_append, List.nil_append, leadingWord?, UInt8.toNat_ofNat',
    Option.some.injEq]
  rw [← UInt32.toNat_inj, UInt32.toNat_ofNat']
  omega

theorem leadingWord?_isSome (bytes : Bytes) : (leadingWord? bytes).isSome ↔ 4 ≤ bytes.length := by
  match bytes with
  | [] | [_] | [_, _] | [_, _, _] => simp [leadingWord?]
  | _ :: _ :: _ :: _ :: _ => simp [leadingWord?]

/-- A text as its UTF-8 bytes. -/
def textBytes (text : String) : Bytes := text.toUTF8.data.toList

end BulkStream
