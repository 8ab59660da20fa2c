import BulkStream.Storage.Disk

/-!
Buffered writing. Bytes gather in a buffer and are written when the next do not fit, or when asked.
A failed write keeps the gathered bytes, so that it can be tried again.
-/
namespace BulkStream.Storage

def bufferCapacity : Nat := 65536

structure Writer where
  target : Disk.Target
  gathered : Array UInt8 := #[]
deriving DecidableEq, Repr

namespace Writer

def flush (w : Writer) (d : Disk) : Except DiskError Unit × Writer × Disk :=
  if w.gathered.isEmpty then (.ok (), w, d)
  else
    match d.append w.target w.gathered.toList with
    | (.ok (), d) => (.ok (), { w with gathered := #[] }, d)
    | (.error error, d) => (.error error, w, d)

/-- Take bytes for which there is room; as many as a whole buffer are written at once. -/
def place (w : Writer) (bytes : Bytes) (d : Disk) : Except DiskError Unit × Writer × Disk :=
  if bufferCapacity ≤ bytes.length then
    let (result, d) := d.append w.target bytes
    (result, w, d)
  else (.ok (), { w with gathered := w.gathered ++ bytes }, d)

def write (w : Writer) (bytes : Bytes) (d : Disk) : Except DiskError Unit × Writer × Disk :=
  if bytes.length ≤ bufferCapacity - w.gathered.size then w.place bytes d
  else
    match w.flush d with
    | (.ok (), w, d) => w.place bytes d
    | failed => failed

end Writer

end BulkStream.Storage
