import BulkStream.Program

/-!
The program at a terminal. It reads variables and files, and takes the steps of a capture one by one;
after each it shows what was logged and writes what was received. What a step writes goes to a file
in memory first. Should the real file not take it, the step is taken again with a dump that is broken.
-/
namespace BulkStream.Terminal

open Capture Peripheral Session Settings Storage

def diskError : IO.Error → DiskError
  | .noFileOrDirectory .. => .notFound
  | .permissionDenied .. => .permissionDenied
  | .resourceExhausted .. => .noSpace
  | .interrupted .. => .interrupted
  | .inappropriateType _ code _ =>
      if code = 20 ∨ code = 0 - 20 then .notDirectory else .isDirectory
  | error => .other (toString error)

def attempt {α : Type} (action : IO α) : IO (Except DiskError α) := do
  try return .ok (← action)
  catch error => return .error (diskError error)

def openContent (path : String) : IO (Except DiskError Disk.Content) := do
  if ← ((← IO.currentDir) / path).isDir then return .ok .directory
  return (← attempt (IO.FS.readBinFile path)).map fun bytes => .data bytes.data.toList

def report (filter : Filter) (lines : List LogLine) : IO Unit := do
  for line in lines do
    if filter.shows line then IO.println line.display
  (← IO.getStdout).flush

def close (filter : Filter) (ending : Ending) : IO UInt32 := do
  report filter ending.lines
  if ending.status = 0 then IO.print ending.notice else IO.eprint ending.notice
  return .ofNat ending.status

/-- The file that sets variables, looked for in the working directory and those above it. -/
def findVariableFile : IO Bytes := do
  let here ← IO.currentDir
  for level in List.range (here.components.length + 1) do
    let path := here / (String.join (List.replicate level "../") ++ variableFile)
    if ← path.pathExists then
      unless ← path.isDir do
        match ← attempt (IO.FS.readBinFile path) with
        | .ok bytes => return bytes.data.toList
        | .error _ => return []
  return []

def candidateNames (file : Bytes) : List String :=
  let text := (String.fromUTF8? ⟨file.toArray⟩).getD ""
  ((text.map fun c => if continuesName c then c else ' ').splitOn " ").filter (· ≠ "")

def loadVariables : IO Variables := do
  let file ← findVariableFile
  let names := Filter.variableName ::
    CaptureArgument.all.filterMap CaptureArgument.environmentName ++ candidateNames file
  let present ← names.eraseDups.filterMapM fun name => do
    return (← IO.getEnv name).map (name, ·)
  return Variables.readFile file present

abbrev TerminalWorld := World Fifo Nat OpenDump

/-- The file in memory that stands for the dump. -/
def spool : Path := ["dump"]

def spooled (d : OpenDump) : Bytes :=
  match d.disk.lookup spool with
  | some (.file data) => data.toBytes
  | _ => []

/-- The dump once the file in memory is written out. -/
def emptied (d : OpenDump) : OpenDump := { d with disk := d.disk.put spool .empty }

/-- The dump when nothing more can be written. -/
def broken (error : DiskError) (d : OpenDump) : OpenDump :=
  match d.handle with
  | .output writer => { d with handle := .output { writer with target := .broken error } }
  | _ => d

def onRecorder (f : Recorder OpenDump → Recorder OpenDump) (l : Link TerminalWorld) :
    Link TerminalWorld :=
  { l with world := { l.world with consumer := f l.world.consumer } }

def onDump (f : OpenDump → OpenDump) : Link TerminalWorld → Link TerminalWorld :=
  onRecorder fun r => { r with sink := { r.sink with dump := f r.sink.dump } }

def atTime (time : Nat) (l : Link TerminalWorld) : Link TerminalWorld :=
  { l with world := { l.world with outside := time } }

def onLink (f : Link TerminalWorld → Link TerminalWorld) : Run TerminalWorld → Run TerminalWorld
  | .active phase s => .active phase { s with link := f s.link }
  | .ended result link => .ended result (f link)

def linkOf : Run TerminalWorld → Link TerminalWorld
  | .active _ s => s.link
  | .ended _ link => link

/-- A link without the past, which has been shown and written. -/
def forget (l : Link TerminalWorld) : Link TerminalWorld :=
  onDump emptied (onRecorder (fun r => { r with log := [] }) { l with history := [] })

structure Console where
  filter : Filter
  options : CaptureOptions
  output : Option IO.FS.Handle

def terminal : Surroundings TerminalWorld :=
  surroundings Fifo.transport clock OpenDump.operations

def orFault {α : Type} : Except Fault α → IO α
  | .ok a => return a
  | .error _ => throw (IO.userError "broken precondition")

/-- Write what waits, and show what was logged. -/
def carryOut (c : Console) (l : Link TerminalWorld) : IO (Except DiskError Unit) := do
  let bytes := spooled l.world.consumer.sink.dump
  let written ← attempt do
    if let some handle := c.output then
      if bytes ≠ [] then
        handle.write ⟨bytes.toArray⟩
        handle.flush
  if written.isOk then report c.filter l.world.consumer.lines
  return written

/-- Do something that leaves work for the terminal; do it again, on a broken dump, if that fails. -/
def withTerminal {α : Type} (c : Console) (l : Link TerminalWorld)
    (act : Link TerminalWorld → Except Fault (α × Link TerminalWorld)) :
    IO (α × Link TerminalWorld) := do
  let l := atTime (← IO.monoNanosNow) l
  let (a, next) ← orFault (act l)
  match ← carryOut c next with
  | .ok () => return (a, forget next)
  | .error error =>
      let (a, next) ← orFault (act (onDump (broken error) l))
      report c.filter next.world.consumer.lines
      return (a, forget next)

/-- Sleep until the rate of the simulated peripheral allows what it has moved. -/
def pace (c : Console) (started : Nat) (l : Link TerminalWorld) : IO Unit := do
  let config := l.world.transport.config
  match config.rate with
  | none | some 0 => pure ()
  | some rate =>
      let moved := l.world.transport.completed * c.options.packetsPerTransfer * config.packetSize
      let due := started + moved * 1000000000 / rate
      let now ← IO.monoNanosNow
      IO.sleep (min ((due - now) / 1000000) c.options.waitMilliseconds).toUInt32

partial def stream (c : Console) (started : Nat) (run : Run TerminalWorld) :
    IO (Except StreamError Summary × Link TerminalWorld) := do
  match run with
  | .ended result link => return (result, link)
  | .active phase s =>
      let (next, link) ← withTerminal c s.link fun link => do
        let next ← Run.step terminal c.options.sessionConfig (.active phase { s with link })
        return (next, linkOf next)
      pace c started link
      stream c started (onLink (fun _ => link) next)

def runSink (c : Console) (sink : Sink OpenDump) : IO UInt32 := do
  match ← orFault (prepare c.options {} sink) with
  | .failed failure _ => close c.filter (Capture.ending (.error failure) false)
  | .ready world =>
      let started ← IO.monoNanosNow
      let (run, link) ← withTerminal c (Link.opened .idle world) fun l =>
        let run := Run.start terminal c.options.sessionConfig .idle l.world
        .ok (run, linkOf run)
      let (result, link) ← stream c started (onLink (fun _ => link) run)
      let (outcome, link) ← withTerminal c link fun l =>
        .ok (settle Fifo.transport clock OpenDump.operations result l)
      close c.filter (Capture.ending outcome link.world.consumer.stopRequested)

def openTerminalDump (o : CaptureOptions) :
    IO (Except Failure (OpenDump × Option IO.FS.Handle)) := do
  match o.file with
  | none => return .ok ({ disk := {}, handle := .none }, none)
  | some path =>
      if o.sendFile then
        match ← openContent path with
        | .error error => return .error (.openInput path error)
        | .ok content => return .ok ({ disk := {}, handle := .input (.ofContent content) }, none)
      else
        match ← attempt (IO.FS.Handle.mk path .write) with
        | .error error => return .error (.createDump path error)
        | .ok file =>
            return .ok ({ disk := {}, handle := .output { target := .file spool } }, some file)

def runCapture (filter : Filter) (o : CaptureOptions) : IO UInt32 := do
  match ← openTerminalDump o with
  | .error failure => close filter (Capture.ending (.error failure) false)
  | .ok (dump, output) =>
      runSink ⟨filter, o, output⟩
        { use := dump.use, dump, checker := o.check.map (·.checker) }

def runCheck (filter : Filter) (o : CheckOptions) : IO UInt32 := do
  let opened := (← openContent o.file).map fun content => (readAnswers? content).getD []
  let (result, lines) := checkFile o opened
  report filter lines
  close filter (checkEnding result)

end BulkStream.Terminal

open BulkStream BulkStream.Settings in
def main (arguments : List String) : IO UInt32 := do
  let environment ← Terminal.loadVariables
  let filter := Filter.ofVariables environment
  match readCommand environment arguments with
  | .error error => Terminal.close filter (usageEnding error)
  | .ok (.capture o) => Terminal.runCapture filter o
  | .ok (.check o) => Terminal.runCheck filter o
