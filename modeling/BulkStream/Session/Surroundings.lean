import BulkStream.Session.Event
import BulkStream.Transport

/-!
What a session runs among: a transport, a consumer of its events, a clock, a flag by which anyone may
ask it to stop, and a log. All share one state `σ`, so that any call may raise the flag, move the
clock or change how another part will answer; a statement about every `Surroundings` covers them all.

A link is a session's end of its surroundings. Calls go through it, and it keeps the history of
what was called and answered.
-/
namespace BulkStream.Session

structure Surroundings (σ : Type) extends Transport σ where
  payload : Bytes → σ → Flow × σ
  /-- A buffer to be filled before it is submitted. -/
  fill : Bytes → σ → (Flow × Bytes) × σ
  progress : Snapshot → σ → Flow × σ
  stopRequested : σ → Bool
  /-- Nanoseconds since some origin. -/
  now : σ → Nat × σ
  log : Event → σ → σ

/-- A call that a session made, with its answer. -/
inductive Action
  | setMode (mode : Mode) (result : Except TransportError Unit)
  | purge (result : Except TransportError Unit)
  | submit (request : Request) (result : Except TransportError Unit)
  | wait (milliseconds : Nat) (result : WaitResult) (completions : List Completion)
  | cancelAll
  | payload (slot : Nat) (span : Bytes) (flow : Flow)
  /-- The buffer as offered and as the consumer left it. -/
  | fill (slot : Nat) (offered left : Bytes) (flow : Flow)
  | progress (snapshot : Snapshot) (flow : Flow)
  | log (event : Event)

def Action.isTransport : Action → Bool
  | .setMode _ _ | .purge _ | .submit _ _ | .wait _ _ _ | .cancelAll => true
  | .payload _ _ _ | .fill _ _ _ _ | .progress _ _ | .log _ => false

structure Link (σ : Type) where
  world : σ
  state : State
  /-- What was called, the latest first. -/
  history : List Action

namespace Link

variable {σ : Type}

def opened (state : State) (world : σ) : Link σ := ⟨world, state, []⟩

def transcript (l : Link σ) : List Action := l.history.reverse

def after (l : Link σ) (action : Action) (world : σ) : Link σ :=
  { l with world, history := action :: l.history }

def setMode (env : Surroundings σ) (mode : Mode) (l : Link σ) :
    Except TransportError Unit × Link σ :=
  let (result, world) := env.setMode mode l.world
  (result, l.after (.setMode mode result) world)

def purge (env : Surroundings σ) (l : Link σ) : Except TransportError Unit × Link σ :=
  let (result, world) := env.purge l.world
  (result, l.after (.purge result) world)

def submit (env : Surroundings σ) (request : Request) (l : Link σ) :
    Except TransportError Unit × Link σ :=
  let (result, world) := env.submit request l.world
  (result, l.after (.submit request result) world)

def wait (env : Surroundings σ) (milliseconds : Nat) (l : Link σ) :
    (WaitResult × List Completion) × Link σ :=
  let ((result, completions), world) := env.wait milliseconds l.world
  ((result, completions), l.after (.wait milliseconds result completions) world)

def cancelAll (env : Surroundings σ) (l : Link σ) : Link σ :=
  l.after .cancelAll (env.cancelAll l.world)

def log (env : Surroundings σ) (event : Event) (l : Link σ) : Link σ :=
  l.after (.log event) (env.log event l.world)

def now (env : Surroundings σ) (l : Link σ) : Nat × Link σ :=
  let (time, world) := env.now l.world
  (time, { l with world })

def stopRequested (env : Surroundings σ) (l : Link σ) : Bool := env.stopRequested l.world

/-- Offer a payload span to the consumer. Once a stop is requested the consumer is no longer called,
and the answer is to stop. -/
def payload (env : Surroundings σ) (slot : Nat) (span : Bytes) (l : Link σ) : Flow × Link σ :=
  if l.stopRequested env then (.stop, l)
  else
    let (flow, world) := env.payload span l.world
    (flow, l.after (.payload slot span flow) world)

/-- Offer a buffer to be filled, unless a stop is requested. A consumer cannot change its length. -/
def fill (env : Surroundings σ) (slot : Nat) (offered : Bytes) (l : Link σ) :
    (Flow × Bytes) × Link σ :=
  if l.stopRequested env then ((.stop, offered), l)
  else
    let ((flow, left), world) := env.fill offered l.world
    let left := fit offered.length left
    ((flow, left), l.after (.fill slot offered left flow) world)

def progress (env : Surroundings σ) (snapshot : Snapshot) (l : Link σ) : Flow × Link σ :=
  if l.stopRequested env then (.stop, l)
  else
    let (flow, world) := env.progress snapshot l.world
    (flow, l.after (.progress snapshot flow) world)

def transition (env : Surroundings σ) (state : State) (l : Link σ) : Link σ :=
  { l with state }.log env (.stateChanged l.state state)

end Link

end BulkStream.Session
