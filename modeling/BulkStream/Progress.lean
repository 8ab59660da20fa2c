import BulkStream.Fault
import BulkStream.Text.FixedPlaces

/-!
Throughput of a session. Times are nanoseconds from some origin. A sample is taken at the first
poll at which an interval has passed since the last one; rates exist from the second sample on.
-/
namespace BulkStream

/-- A count of at most 64 bits as the nearest double. -/
def countAsFloat (n : Nat) : Float := n.toUInt64.toFloat

/-- A duration in seconds: whole seconds and the nanoseconds beyond them, converted apart. -/
def secondsOf (nanoseconds : Nat) : Float :=
  countAsFloat (nanoseconds / 1000000000) + countAsFloat (nanoseconds % 1000000000) / 1000000000

structure Snapshot where
  /-- When the session started to stream. -/
  first : Nat
  /-- Time of the sample before. -/
  previous : Nat
  current : Nat
  bytes : Nat
  /-- Bytes at the sample before. -/
  previousBytes : Nat
  /-- Seconds from the start to this sample. -/
  elapsed : Float
  /-- Bytes a second since the sample before. -/
  currentRate : Option Float
  /-- Bytes a second since the start. -/
  totalRate : Option Float
deriving Repr

namespace Snapshot

def atStart (now : Nat) : Snapshot :=
  { first := now, previous := now, current := now, bytes := 0, previousBytes := 0, elapsed := 0
    currentRate := none, totalRate := none }

def mebibytes (s : Snapshot) : Float := countAsFloat s.bytes / (1024 * 1024)

end Snapshot

structure Tracker where
  snapshot : Snapshot
  /-- Least time between samples. -/
  interval : Nat
  /-- Some sample has been made the previous one. -/
  hasPrevious : Bool
deriving Repr

namespace Tracker

def start (now interval : Nat) : Tracker := ⟨.atStart now, interval, false⟩

def credit (t : Tracker) (bytes : Nat) : Except Fault Tracker := do
  let total ← addCount t.snapshot.bytes bytes
  return { t with snapshot := { t.snapshot with bytes := total } }

def windowBytes (s : Snapshot) : Except Fault Nat :=
  if s.previousBytes ≤ s.bytes then .ok (s.bytes - s.previousBytes) else .error .countUnderflow

/-- The rates of a sample; one over an empty time keeps its value. -/
def withRates (s : Snapshot) : Except Fault Snapshot := do
  let window := secondsOf (s.current - s.previous)
  let currentRate ←
    if window > 0 then pure (some (countAsFloat (← windowBytes s) / window)) else pure s.currentRate
  let totalRate := if s.elapsed > 0 then some (countAsFloat s.bytes / s.elapsed) else s.totalRate
  return { s with currentRate, totalRate }

/-- Take a sample if the interval has passed since the last. A time that goes back counts as no
time passed. -/
def poll (t : Tracker) (now : Nat) : Except Fault (Option Tracker) := do
  if now - t.snapshot.current < t.interval then return none
  let s := { t.snapshot with current := now, elapsed := secondsOf (now - t.snapshot.first) }
  if t.hasPrevious then return some { t with snapshot := ← withRates s }
  return some { t with snapshot := s }

def rollForward (t : Tracker) : Tracker :=
  { t with
    snapshot := { t.snapshot with previous := t.snapshot.current, previousBytes := t.snapshot.bytes }
    hasPrevious := true }

end Tracker

def rateColumn : Option Float → String
  | some rate => Text.rightAligned 7 (Text.fixedPlaces 1 (rate / 1024)) ++ " kB/s"
  | none => Text.rightAligned 7 "-" ++ " kB/s"

def Snapshot.line (s : Snapshot) (errors : Nat) : String :=
  Text.rightAligned 10 (Text.fixedPlaces 2 s.elapsed) ++ "s total time " ++
    Text.rightAligned 9 (Text.fixedPlaces 3 s.mebibytes) ++ " MiB transferred " ++
    rateColumn s.currentRate ++ " curr rate " ++ rateColumn s.totalRate ++
    s!" total rate {errors} errors"

end BulkStream
