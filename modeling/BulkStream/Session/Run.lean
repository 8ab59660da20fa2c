import BulkStream.Packet
import BulkStream.Pool
import BulkStream.Session.Surroundings

/-!
A run of one session. The peripheral is reset and purged, every slot is submitted, and only then
does data flow. In each streaming cycle the session waits for completions, passes on what they
carry and submits their slots again. It drains when the last slot is released, after the first
error, or when a wait hands over nothing.

A run is a machine that takes one step at a time, so that what holds at every point of a run is a
statement about every number of steps. A step is total; only how many it takes depends on the
surroundings, as a session may stream for ever.
-/
namespace BulkStream.Session

structure Config where
  direction : Direction := .read
  packetsPerTransfer : Nat := 8
  transferCount : Nat := 256
  /-- Bound of one wait; a wait that hands over nothing ends the session. -/
  waitMilliseconds : Nat := 5000
  /-- Nanoseconds between samples. -/
  progressInterval : Nat := 1000000000
deriving DecidableEq, Repr

/-- How a session without a failure ended. -/
inductive Termination
  /-- The consumer released every slot. -/
  | stopped
  /-- A stop was requested. -/
  | cancelled
deriving DecidableEq, Repr

structure Summary where
  termination : Termination
  bytes : Nat
  /-- Transfers that completed successfully while streaming. -/
  transfers : Nat
  slotsReleased : Nat
  /-- Nanoseconds from first to last. -/
  elapsed : Nat
  progress : Snapshot
deriving Repr

structure Stream (σ : Type) where
  link : Link σ
  pool : Pool
  tracker : Tracker
  packetSize : Nat
  started : Nat
  /-- Completions since the last look at whether any came. -/
  activity : Nat := 0
  transfers : Nat := 0
  /-- Every slot is to be released as it completes. -/
  stopAll : Bool := false
  /-- The first error that ends the session. -/
  fatal : Option StreamError := none

namespace Stream

variable {σ : Type}

/-- Keep an error, unless there is an earlier one. -/
def fail (s : Stream σ) (error : StreamError) : Stream σ :=
  { s with fatal := s.fatal.or (some error) }

def log (env : Surroundings σ) (event : Event) (s : Stream σ) : Stream σ :=
  { s with link := s.link.log env event }

def release (env : Surroundings σ) (slot : Nat) (s : Stream σ) : Except Fault (Stream σ) := do
  let pool ← s.pool.release slot
  return { s with pool }.log env (.slotReleased slot pool.live)

/-- Credit and offer the spans of one transfer in order, up to the first answer to stop. Empty spans
are passed over. -/
def deliver (env : Surroundings σ) (slot : Nat) :
    List Bytes → Stream σ → Except Fault (Flow × Stream σ)
  | [], s => .ok (.proceed, s)
  | span :: spans, s =>
      if span.isEmpty then deliver env slot spans s
      else do
        let tracker ← s.tracker.credit span.length
        let (flow, link) := s.link.payload env slot span
        let s := { s with tracker, link }
        match flow with
        | .proceed => deliver env slot spans s
        | .stop => return (.stop, s)

/-- Pass on what a successful transfer carries: its payload to be read, or its buffer to be filled
again. The buffer that comes back is the one to submit. -/
def consume (env : Surroundings σ) (c : Completion) (s : Stream σ) :
    Except Fault (Flow × Bytes × Stream σ) := do
  match s.pool.direction with
  | .read =>
      let received ← Received.ofBuffer c.buffer c.length s.packetSize
      let (flow, s) ← s.deliver env c.slot received.spans
      return (flow, c.buffer, s)
  | .write =>
      let tracker ← s.tracker.credit c.length
      let ((flow, buffer), link) := s.link.fill env c.slot (fit s.pool.bufferLength c.buffer)
      return (flow, buffer, { s with tracker, link })

def resubmit (env : Surroundings σ) (slot : Nat) (buffer : Bytes) (s : Stream σ) :
    Except Fault (Stream σ) := do
  let handover ← s.pool.resubmit (Link.submit env) slot buffer s.link
  let s := { s with pool := handover.pool, link := handover.world }
  match handover.result with
  | .ok () => return s
  | .error error => return (s.log env (.error error.message)).fail error

def handleOwn (env : Surroundings σ) (c : Completion) (s : Stream σ) :
    Except Fault (Stream σ) := do
  if c.status ≠ .completed then
    let s := s.log env (.transferFailed c.slot c.status)
    let pool ← s.pool.release c.slot
    return { s with pool }.fail (.transport (.status c.status))
  let s := { s with transfers := s.transfers + 1 }
  if s.fatal.isSome || s.stopAll then s.release env c.slot
  else
    let (flow, buffer, s) ← s.consume env c
    match flow with
    | .stop => s.release env c.slot
    | .proceed => s.resubmit env c.slot buffer

/-- Handle a completion. One for a slot that is not in flight ends the session. -/
def handle (env : Surroundings σ) (c : Completion) (s : Stream σ) : Except Fault (Stream σ) := do
  let s := { s with activity := s.activity + 1 }
  let (result, pool) ← s.pool.complete c.slot
  let s := { s with pool }
  match result with
  | .error error => return s.fail error
  | .ok () => handleOwn env c s

/-- Wait for completions, once more if the wait is interrupted. What both waits hand over is kept. -/
def await (env : Surroundings σ) (milliseconds : Nat) (l : Link σ) :
    (Option StreamError × List Completion) × Link σ :=
  match l.wait env milliseconds with
  | ((.ok, completions), l) => ((none, completions), l)
  | ((.failed error, completions), l) => ((some (.transport error), completions), l)
  | ((.interrupted, completions), l) =>
      match (l.log env .waitInterrupted).wait env milliseconds with
      | ((.ok, more), l) => ((none, completions ++ more), l)
      | ((.interrupted, more), l) => ((some (.transport .interrupted), completions ++ more), l)
      | ((.failed error, more), l) => ((some (.transport error), completions ++ more), l)

/-- The first half of a cycle: note a requested stop, and wait. The completions are to be handled. -/
def gather (env : Surroundings σ) (milliseconds : Nat) (s : Stream σ) :
    List Completion × Stream σ :=
  let s := { s with stopAll := s.stopAll || s.link.stopRequested env }
  match await env milliseconds s.link with
  | ((none, completions), link) => (completions, { s with link })
  | ((some error, completions), link) => (completions, { s with link }.fail error)

def sample (env : Surroundings σ) (s : Stream σ) : Except Fault (Stream σ) := do
  let (time, link) := s.link.now env
  let s := { s with link }
  match ← s.tracker.poll time with
  | none => return s
  | some tracker =>
      let s := s.log env (.progress tracker.snapshot.bytes tracker.snapshot.currentRate)
      let (flow, link) := s.link.progress env tracker.snapshot
      return { s with
        link
        tracker := tracker.rollForward
        stopAll := s.stopAll || flow == .stop }

/-- The second half of a cycle, once its completions are handled. The flag tells whether another
cycle follows. -/
def conclude (env : Surroundings σ) (milliseconds : Nat) (s : Stream σ) :
    Except Fault (Bool × Stream σ) := do
  if s.fatal.isSome || s.pool.live == 0 then return (false, s)
  if s.activity = 0 then
    return (false, (s.log env (.stalled milliseconds)).fail (.livenessTimeout milliseconds))
  let s ← { s with activity := 0 }.sample env
  return (true, s)

/-- Take back the slot of a completion, and drop what it carries. A completion of a slot that is not
in flight is passed over. The answer tells whether the slot was taken back. -/
def collect (c : Completion) (s : Stream σ) : Except Fault (Bool × Stream σ) := do
  let (result, pool) ← s.pool.complete c.slot
  match result with
  | .error _ => return (false, { s with pool })
  | .ok () => return (true, { s with pool := ← pool.release c.slot })

end Stream

inductive Phase
  | priming (index : Nat)
  | cycling
  /-- Handle the completions of the current cycle that are left. -/
  | handling (completions : List Completion)
  | closing
  /-- Wait for what is in flight: slots collected so far, and whether the last wait was interrupted. -/
  | draining (collected : Nat) (interrupted : Bool)
  /-- Collect the completions of that wait that are left: how it ended, whether the one before it was
  interrupted, and slots collected before it and so far. -/
  | collecting (answer : WaitResult) (interrupted : Bool) (before collected : Nat)
      (completions : List Completion)
  /-- Give up on what is still in flight, and end. -/
  | settling (collected : Nat)
deriving DecidableEq, Repr

inductive Run (σ : Type)
  | active (phase : Phase) (stream : Stream σ)
  | ended (result : Except StreamError Summary) (link : Link σ)

namespace Run

variable {σ : Type}

/-- Reset and purge the peripheral; the answer is its packet size. -/
def configure (env : Surroundings σ) (l : Link σ) : Except StreamError Nat × Link σ :=
  match l.setMode env .reset with
  | (.error source, l) => (.error (.configuration "reset peripheral mode" source), l)
  | (.ok (), l) =>
      match l.purge env with
      | (.error source, l) => (.error (.configuration "purge buffers" source), l)
      | (.ok (), l) =>
          let size := env.packetSize l.world
          if Packet.statusLength < size then (.ok size, l)
          else
            (.error (.configuration "packet size"
              (.other s!"{size} byte packets leave no room for payload")), l)

def failEarly (env : Surroundings σ) (error : StreamError) (l : Link σ) : Run σ :=
  .ended (.error error) ((l.log env (.error error.message)).transition env .terminated)

def start (env : Surroundings σ) (config : Config) (state : State) (world : σ) : Run σ :=
  let (started, l) := (Link.opened state world).now env
  match configure env (l.transition env .configuring) with
  | (.error error, l) => failEarly env error l
  | (.ok packetSize, l) =>
      let l := l.transition env .priming
      match Pool.allocate config.direction packetSize config.packetsPerTransfer
          config.transferCount with
      | .error error => failEarly env error l
      | .ok pool =>
          .active (.priming 0) {
            link := l, pool, packetSize, started
            tracker := .start started config.progressInterval }

/-- How a session ends whose fatal error, if any, and stop flag are as given. A peripheral that goes
quiet after a stop was requested has done what it was asked. -/
def outcome (fatal : Option StreamError) (stopRequested : Bool) : Except StreamError Termination :=
  match fatal with
  | none => .ok (if stopRequested then .cancelled else .stopped)
  | some error => if stopRequested && error.isGraceful then .ok .cancelled else .error error

def finish (env : Surroundings σ) (s : Stream σ) : Run σ :=
  let l := s.link.transition env .terminated
  let cancelled := l.stopRequested env
  let (time, l) := l.now env
  let elapsed := time - s.started
  let bytes := s.tracker.snapshot.bytes
  let l := l.log env (.finished bytes s.transfers (elapsed / 1000000))
  match outcome s.fatal cancelled with
  | .error error => .ended (.error error) (l.log env (.error error.message))
  | .ok termination =>
      .ended (.ok {
        termination, bytes, elapsed, transfers := s.transfers
        slotsReleased := s.pool.released, progress := s.tracker.snapshot }) l

/-- Release what the transport does not own. It is only called if it owns some slot. -/
def drain (env : Surroundings σ) (s : Stream σ) : Except Fault (Run σ) := do
  let s := { s with link := s.link.transition env .draining }
  let pool ← s.pool.releaseIdle
  let s := { s with pool }
  if pool.inFlight = 0 then return .active (.settling 0) s
  return .active (.draining 0 false) { s with link := s.link.cancelAll env }

def settle (env : Surroundings σ) (collected : Nat) (s : Stream σ) : Except Fault (Run σ) := do
  let pool ← s.pool.abandonInFlight
  return finish env ({ s with pool }.log env (.drained collected s.pool.inFlight))

def drainOnce (env : Surroundings σ) (milliseconds collected : Nat) (interrupted : Bool)
    (s : Stream σ) : Run σ :=
  if s.pool.inFlight = 0 then .active (.settling collected) s
  else
    let ((answer, completions), link) := s.link.wait env milliseconds
    .active (.collecting answer interrupted collected collected completions) { s with link }

/-- What follows a wait of a drain. It goes on while slots come back; an interrupted wait is made up
for by one more. -/
def afterWait (answer : WaitResult) (interrupted : Bool) (before collected : Nat) : Phase :=
  match answer with
  | .ok => if collected = before then .settling collected else .draining collected false
  | .interrupted => if interrupted then .settling collected else .draining collected true
  | .failed _ => .settling collected

def enterStreaming (env : Surroundings σ) (config : Config) (s : Stream σ) : Run σ :=
  let s := s.log env (.primed config.direction s.pool.inFlight s.pool.bufferLength)
  match s.link.setMode env .syncFifo with
  | (.error source, link) =>
      .active .closing
        ({ s with link }.fail (.configuration "enter synchronous FIFO mode" source))
  | (.ok (), link) =>
      let (time, link) := (link.transition env .streaming).now env
      .active .cycling { s with link, tracker := .start time config.progressInterval }

def primeOnce (env : Surroundings σ) (config : Config) (index : Nat) (s : Stream σ) :
    Except Fault (Run σ) := do
  if index < s.pool.capacity then
    let handover ← s.pool.primeSlot (Link.submit env) (Link.fill env) index s.link
    let s := { s with pool := handover.pool, link := handover.world }
    match handover.result with
    | .ok () => return .active (.priming (index + 1)) s
    | .error error => return .active .closing (s.fail error)
  else return enterStreaming env config s

/-- One step of a run. A run that has ended stays as it is. -/
def step (env : Surroundings σ) (config : Config) : Run σ → Except Fault (Run σ)
  | .ended result link => .ok (.ended result link)
  | .active (.priming index) s => primeOnce env config index s
  | .active .cycling s =>
      let (completions, s) := s.gather env config.waitMilliseconds
      .ok (.active (.handling completions) s)
  | .active (.handling (c :: completions)) s => do
      return .active (.handling completions) (← s.handle env c)
  | .active (.handling []) s => do
      let (again, s) ← s.conclude env config.waitMilliseconds
      return .active (if again then .cycling else .closing) s
  | .active .closing s => drain env s
  | .active (.draining collected interrupted) s =>
      .ok (drainOnce env config.waitMilliseconds collected interrupted s)
  | .active (.collecting answer interrupted before collected (c :: completions)) s => do
      let (own, s) ← s.collect c
      let collected := if own then collected + 1 else collected
      return .active (.collecting answer interrupted before collected completions) s
  | .active (.collecting answer interrupted before collected []) s =>
      .ok (.active (afterWait answer interrupted before collected) s)
  | .active (.settling collected) s => settle env collected s

def advance (env : Surroundings σ) (config : Config) : Nat → Run σ → Except Fault (Run σ)
  | 0, run => .ok run
  | _ + 1, .ended result link => .ok (.ended result link)
  | n + 1, .active phase s => do advance env config n (← step env config (.active phase s))

end Run

end BulkStream.Session
