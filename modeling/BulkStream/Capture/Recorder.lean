import BulkStream.Capture.Sink
import BulkStream.Session.Assembly
import BulkStream.Settings.Options

/-!
The consumer of a whole capture: the sink, and the log it shares with the session. A signal by which
the user ends the capture is heard once every slot is submitted; it is logged and asks for a stop.
-/
namespace BulkStream.Capture

open Session Settings

inductive Signal
  | interrupt
  | terminate
deriving DecidableEq, Repr

/-- The part of the program that decides how it ends. -/
def programTarget : String := "fifocap"

def Signal.line : Signal → LogLine
  | .interrupt =>
      { level := .info, target := programTarget, message := "Received Ctrl+C, draining..." }
  | .terminate =>
      { level := .info, target := programTarget, message := "Received SIGTERM, draining..." }

structure Recorder (δ : Type) where
  sink : Sink δ
  log : List LogLine := []
  /-- A signal not yet heard. -/
  signal : Option Signal := none
  stopRequested : Bool := false

namespace Recorder

variable {δ : Type}

def lines (r : Recorder δ) : List LogLine := r.log.reverse

def note (line : LogLine) (r : Recorder δ) : Recorder δ := { r with log := line :: r.log }

def noteAll (lines : List LogLine) (r : Recorder δ) : Recorder δ :=
  { r with log := lines.reverse ++ r.log }

def hear (r : Recorder δ) : Recorder δ :=
  match r.signal with
  | none => r
  | some signal => { r with signal := none, stopRequested := true }.note signal.line

def consumer (file : DumpFile δ) : Consumer (Recorder δ) where
  payload data r :=
    let ((flow, lines), sink) := r.sink.payload file data
    (flow, { r with sink }.noteAll lines)
  fill buffer r :=
    let ((flow, left, lines), sink) := r.sink.fill file buffer
    ((flow, left), { r with sink }.noteAll lines)
  progress snapshot r := (.proceed, r.note (r.sink.progressLine snapshot))
  log event r :=
    let r := r.note event.logLine
    match event with
    | .primed _ _ _ => r.hear
    | _ => r
  stopRequested r := r.stopRequested

end Recorder

/-- Open the dump that the options ask for. One that is written is created, or emptied. -/
def openDump (o : CaptureOptions) (disk : Storage.Disk) : Except Failure OpenDump :=
  match o.file with
  | none => .ok { disk, handle := .none }
  | some path =>
      if o.sendFile then
        match disk.openRead path with
        | .ok content => .ok { disk, handle := .input (.ofContent content) }
        | .error error => .error (.openInput path error)
      else
        match disk.create path with
        | .ok (target, disk) => .ok { disk, handle := .output { target } }
        | .error error => .error (.createDump path error)

def openSink (o : CaptureOptions) (disk : Storage.Disk) : Except Failure (Sink OpenDump) :=
  match openDump o disk with
  | .ok dump => .ok { use := dump.use, dump, checker := o.check.map (·.checker) }
  | .error failure => .error failure

end BulkStream.Capture
