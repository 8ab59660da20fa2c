import BulkStream.Storage.Disk

/-!
Filling buffers from an input that starts over at its end, so that the input is read as one endless
cycle. An input with nothing in it is an error, told from an end met by chance by reading again after
the first rewind.
-/
namespace BulkStream.Storage

/-- An input that is read in pieces and can be rewound. -/
structure Input (ρ : Type) where
  /-- At most so many bytes from where reading stands; none at the end. -/
  read : Nat → ρ → Except DiskError Bytes × ρ
  /-- Go back to the beginning. -/
  rewind : ρ → Except DiskError Unit × ρ

/-- How a fill ends: the bytes it read, and what stopped it short of the full length. -/
structure Filled where
  bytes : Bytes
  error : Option DiskError := none
deriving DecidableEq, Repr

/-- Read `wanted` bytes behind those filled already, in at most so many reads. A read that was
interrupted is repeated. Nothing is returned if the reads are used up. -/
def fillRewinding {ρ : Type} (input : Input ρ) :
    (reads wanted : Nat) → (rewound : Bool) → (filled : Array UInt8) → ρ →
      Option (Filled × ρ)
  | _, 0, _, filled, s => some (⟨filled.toList, none⟩, s)
  | 0, _ + 1, _, _, _ => none
  | reads + 1, wanted + 1, rewound, filled, s =>
      match input.read (wanted + 1) s with
      | (.ok [], s) =>
          if rewound then some (⟨filled.toList, some .emptyInput⟩, s)
          else
            match input.rewind s with
            | (.ok (), s) => fillRewinding input reads (wanted + 1) true filled s
            | (.error error, s) => some (⟨filled.toList, some error⟩, s)
      | (.ok bytes, s) =>
          fillRewinding input reads (wanted + 1 - bytes.length) false (filled ++ bytes) s
      | (.error .interrupted, s) => fillRewinding input reads (wanted + 1) rewound filled s
      | (.error error, s) => some (⟨filled.toList, some error⟩, s)

/-- Reads that a fill takes at most where no read is interrupted: each gives a byte, or comes before
a rewind. -/
def readsNeeded (wanted : Nat) : Nat := 2 * wanted + 2

/-- An opened file, and what is left to read of it. -/
structure OpenInput where
  content : Disk.Content
  rest : Bytes
deriving DecidableEq, Repr

namespace OpenInput

def ofContent (content : Disk.Content) : OpenInput :=
  { content, rest := match content with | .data bytes => bytes | _ => [] }

def input : Input OpenInput where
  read count s :=
    match s.content with
    | .data _ => (.ok (s.rest.take count), { s with rest := s.rest.drop count })
    | .zeros => (.ok (List.replicate count 0), s)
    | .directory => (.error .isDirectory, s)
  rewind s := (.ok (), ofContent s.content)

def fill (count : Nat) (s : OpenInput) : Filled × OpenInput :=
  (fillRewinding input (readsNeeded count) count false #[] s).getD (⟨[], none⟩, s)

end OpenInput

end BulkStream.Storage
