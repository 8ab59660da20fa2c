import BulkStream.Capture.Recorder

/-!
How a capture ends. Whatever became of the session, the peripheral is put back into reset mode and
the dump is settled; of several failures the dump's comes first. A peripheral that goes quiet ends a
capture well. The exit status is that of the result, but a capture that the user ended succeeds.
-/
namespace BulkStream.Capture

open Session Integrity

structure Outcome where
  /-- Summary of the session, unless the peripheral went quiet. -/
  session : Option Summary
  /-- Report of the check, if one was asked for. -/
  integrity : Option Report
deriving Repr

/-- What a capture runs among: a transport, the outside, and a recorder. -/
abbrev World (τ η δ : Type) := Assembly τ η (Recorder δ)

def surroundings {τ η δ : Type} (t : Transport τ) (o : Outside η) (file : DumpFile δ) :
    Surroundings (World τ η δ) :=
  Assembly.surroundings t o (Recorder.consumer file)

def participle : Termination → String
  | .stopped => "stopped"
  | .cancelled => "cancelled"

def summaryLine (s : Summary) : LogLine :=
  logLine .info <|
    "Session " ++ participle s.termination ++
      s!": {s.bytes} bytes in {s.transfers} transfers, " ++
      Text.fixedPlaces 2 (secondsOf s.elapsed) ++ "s"

/-- What a log shows of a report. -/
def reportLines (r : Report) : List LogLine :=
  if r.isClean then [logLine .info ("Integrity: " ++ r.summary)]
  else
    logLine .warn ("Integrity: " ++ r.summary) ::
      r.diagnostics.map (fun anomaly => logLine .warn ("  " ++ anomaly.message)) ++
      (if r.suppressed > 0 then [logLine .warn s!"  ... {r.suppressed} more"] else [])

section Settling

variable {τ η δ : Type}

def note (lines : List LogLine) (l : Link (World τ η δ)) : Link (World τ η δ) :=
  { l with world := { l.world with consumer := l.world.consumer.noteAll lines } }

def restore (env : Surroundings (World τ η δ)) (l : Link (World τ η δ)) : Link (World τ η δ) :=
  match l.setMode env .reset with
  | (.ok (), l) => l
  | (.error error, l) =>
      note [logLine .warn ("Can't reset peripheral mode: " ++ error.message)] l

/-- Settle dump and check. -/
def closeSink (file : DumpFile δ) (l : Link (World τ η δ)) :
    Except Failure (Option Report) × Link (World τ η δ) :=
  let recorder := l.world.consumer
  let ((result, lines), sink) := recorder.sink.finish file
  (result, { l with world := { l.world with consumer := { recorder with sink }.noteAll lines } })

def conclude (result : Except StreamError Summary) (integrity : Option Report) :
    Except Failure Outcome × List LogLine :=
  let integrityLines := integrity.elim [] reportLines
  match result with
  | .ok summary => (.ok ⟨some summary, integrity⟩, summaryLine summary :: integrityLines)
  | .error error =>
      if error.isGraceful then
        (.ok ⟨none, integrity⟩, logLine .info (error.message ++ ", ending session") :: integrityLines)
      else (.error (.session error), [])

def settle (t : Transport τ) (o : Outside η) (file : DumpFile δ)
    (result : Except StreamError Summary) (l : Link (World τ η δ)) :
    Except Failure Outcome × Link (World τ η δ) :=
  let l := note [logLine .info "Capture ended."] l
  match closeSink file (restore (surroundings t o file) l) with
  | (.error failure, l) => (.error failure, l)
  | (.ok integrity, l) =>
      let (outcome, lines) := conclude result integrity
      (outcome, note lines l)

/-- Run a session from its beginning, in at most so many steps, and wind up. Nothing is returned
if the session goes on beyond them. -/
def runSession (t : Transport τ) (o : Outside η) (file : DumpFile δ) (config : Session.Config)
    (steps : Nat) (world : World τ η δ) :
    Except Fault (Option (Except Failure Outcome × Link (World τ η δ))) := do
  let env := surroundings t o file
  match ← Run.advance env config steps (Run.start env config .idle world) with
  | .active _ _ => return none
  | .ended result link => return some (settle t o file result link)

end Settling

structure Ending where
  status : Nat
  lines : List LogLine := []
  notice : String := ""
deriving DecidableEq, Repr

def programLine (level : Level) (message : String) : LogLine :=
  { level, target := programTarget, message }

/-- The ending of a capture. A stream with anomalies is no failure. -/
def ending (result : Except Failure Outcome) (stopRequested : Bool) : Ending :=
  match result with
  | .ok outcome =>
      { status := 0
        lines :=
          (if outcome.session.isNone then
            [programLine .info "Peripheral went quiet, session ended"] else []) ++
          (if outcome.integrity.any (!·.isClean) then
            [programLine .warn "Captured stream has sequence errors"] else []) }
  | .error failure =>
      if stopRequested then
        { status := 0, lines := [programLine .warn ("Capture aborted: " ++ failure.line)] }
      else { status := 1, notice := failure.notice }

end BulkStream.Capture
