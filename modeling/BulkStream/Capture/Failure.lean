import BulkStream.Storage.Error
import BulkStream.Transfer

/-!
Why a capture or a check fails. A failure has a message of its own, and behind it the causes, the
outermost first.
-/
namespace BulkStream.Capture

inductive Failure
  | openInput (path : String) (error : DiskError)
  | createDump (path : String) (error : DiskError)
  | openDump (path : String) (error : DiskError)
  | readDump (path : String) (error : DiskError)
  /-- There is no device to capture from. -/
  | noDevice
  | flushDump (error : DiskError)
  /-- The dump could not be read or written in the course of the capture. -/
  | dumpBroke (error : DiskError)
  | session (error : StreamError)
deriving DecidableEq, Repr

namespace Failure

def message : Failure → String
  | .openInput path _ => "Can't open input file " ++ path
  | .createDump path _ => "Can't create dump file " ++ path
  | .openDump path _ => "Can't open dump file " ++ path
  | .readDump path _ => "Can't read dump file " ++ path
  | .noDevice =>
      "built without USB support; rebuild with \x60--features usb\x60 or pass --simulate"
  | .flushDump _ => "Can't flush dump file"
  | .dumpBroke _ => "Dump file I/O failed during capture"
  | .session _ => "Streaming session failed"

def causes : Failure → List String
  | .openInput _ e | .createDump _ e | .openDump _ e | .readDump _ e | .flushDump e
  | .dumpBroke e => [e.message]
  | .noDevice => []
  | .session e => e.message :: e.cause?.toList.map TransportError.message

/-- The message and all causes on one line. -/
def line (f : Failure) : String := ": ".intercalate (f.message :: f.causes)

/-- The failure as it is shown to the user. Several causes are numbered. -/
def notice (f : Failure) : String :=
  let listed :=
    match f.causes with
    | [] => []
    | [cause] => ["", "Caused by:", "    " ++ cause]
    | causes => ["", "Caused by:"] ++ causes.mapIdx fun i cause => s!"    {i}: " ++ cause
  "\n".intercalate (("Error: " ++ f.message) :: listed) ++ "\n"

end Failure

end BulkStream.Capture
