import BulkStream.Peripheral.Fifo
import BulkStream.Session.Run

/-!
What the program can be asked to do, and what the choices mean for the session, the simulated
peripheral and the check.
-/
namespace BulkStream.Settings

open Integrity

inductive Encoding
  | binary
  | text
deriving DecidableEq, Repr

namespace Encoding

def word : Encoding → String
  | .binary => "binary"
  | .text => "text"

def title : Encoding → String
  | .binary => "Binary"
  | .text => "Text"

def all : List Encoding := [.binary, .text]

/-- The encoding that a word asks for, written exactly so. -/
def ofWord? (word : String) : Option Encoding := all.find? (·.word = word)

def format : Encoding → RecordFormat
  | .binary => .binary {}
  | .text => .text

def checker : Encoding → Checker
  | .binary => .binary { format := {} }
  | .text => .text {}

theorem ofFormat_format (e : Encoding) : Checker.ofFormat e.format = .ok e.checker := by
  cases e <;> rfl

end Encoding

structure CaptureOptions where
  /-- Product text of the device to open. -/
  device : Option String := none
  /-- Send the file to the device instead of receiving into it. -/
  sendFile : Bool := false
  check : Option Encoding := none
  simulate : Bool := false
  packetsPerTransfer : Nat := 8
  transferCount : Nat := 256
  latencyMilliseconds : Nat := 2
  waitMilliseconds : Nat := 5000
  simRate : Option Nat := none
  simDropEvery : Option Nat := none
  file : Option String := none
deriving DecidableEq, Repr

namespace CaptureOptions

def direction (o : CaptureOptions) : Direction := if o.sendFile then .write else .read

def sessionConfig (o : CaptureOptions) : Session.Config :=
  { direction := o.direction
    packetsPerTransfer := o.packetsPerTransfer
    transferCount := o.transferCount
    waitMilliseconds := o.waitMilliseconds }

/-- The simulated peripheral emits the records that the check expects. -/
def peripheralConfig (o : CaptureOptions) : Peripheral.Config :=
  { pattern := (o.check.getD .binary).format
    dropEvery := o.simDropEvery
    rate := o.simRate }

end CaptureOptions

structure CheckOptions where
  encoding : Encoding := .binary
  file : String
deriving DecidableEq, Repr

inductive Command
  | capture (options : CaptureOptions)
  | check (options : CheckOptions)
deriving DecidableEq, Repr

end BulkStream.Settings
