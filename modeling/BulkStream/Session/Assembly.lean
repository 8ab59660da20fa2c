import BulkStream.Session.Surroundings

/-!
Surroundings put together from parts: a transport, a consumer with its log, and the outside, which
keeps the clock and may ask for a stop at any call to the transport. The parts do not see each other.
-/
namespace BulkStream.Session

/-- Calls to a transport, as the outside may tell them apart. -/
inductive Call
  | setMode
  | purge
  | submit
  | wait
  | cancelAll
deriving DecidableEq, Repr

/-- Clock and stop flag. -/
structure Outside (η : Type) where
  /-- What happens outside as a call to the transport begins. -/
  meanwhile : Call → η → η
  now : η → Nat × η
  stopRequested : η → Bool

/-- Consumer of events, and log. It may ask for a stop too. -/
structure Consumer (κ : Type) where
  payload : Bytes → κ → Flow × κ
  fill : Bytes → κ → (Flow × Bytes) × κ
  progress : Snapshot → κ → Flow × κ
  log : Event → κ → κ
  stopRequested : κ → Bool

structure Assembly (τ η κ : Type) where
  transport : τ
  outside : η
  consumer : κ

namespace Assembly

variable {τ η κ : Type}

def calling (o : Outside η) (call : Call) (a : Assembly τ η κ) : Assembly τ η κ :=
  { a with outside := o.meanwhile call a.outside }

def onTransport {α : Type} (f : τ → α × τ) (a : Assembly τ η κ) : α × Assembly τ η κ :=
  let (answer, transport) := f a.transport
  (answer, { a with transport })

def onConsumer {α : Type} (f : κ → α × κ) (a : Assembly τ η κ) : α × Assembly τ η κ :=
  let (answer, consumer) := f a.consumer
  (answer, { a with consumer })

def surroundings (t : Transport τ) (o : Outside η) (c : Consumer κ) :
    Surroundings (Assembly τ η κ) where
  packetSize a := t.packetSize a.transport
  setMode mode a := (a.calling o .setMode).onTransport (t.setMode mode)
  purge a := (a.calling o .purge).onTransport t.purge
  submit request a := (a.calling o .submit).onTransport (t.submit request)
  wait milliseconds a := (a.calling o .wait).onTransport (t.wait milliseconds)
  cancelAll a :=
    let a := a.calling o .cancelAll
    { a with transport := t.cancelAll a.transport }
  payload span a := a.onConsumer (c.payload span)
  fill buffer a := a.onConsumer (c.fill buffer)
  progress snapshot a := a.onConsumer (c.progress snapshot)
  stopRequested a := o.stopRequested a.outside || c.stopRequested a.consumer
  now a :=
    let (time, outside) := o.now a.outside
    (time, { a with outside })
  log event a := { a with consumer := c.log event a.consumer }

end Assembly

end BulkStream.Session
